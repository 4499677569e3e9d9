import Runbook.Instances
import Std.Data.HashMap

/-!
# Alignment

Which items of two lists are partners, in order, and which stand in one of the lists only. The
items are searched from both ends at once for a way between the lists with as few items without a
partner as can be, and what is found is then moved to where it reads best.
-/

namespace Runbook.Program

/-- Two lists of items as numbers: equal items have the same number. -/
structure Alignment where
  left : Array Nat
  right : Array Nat
deriving Inhabited

namespace Alignment

/-- Number the items of two lists. -/
def ofLists {α : Type} [BEq α] [Hashable α] (left right : List α) : Alignment :=
  let number (state : Std.HashMap α Nat × Array Nat) (item : α) :
      Std.HashMap α Nat × Array Nat :=
    match state.1[item]? with
    | some n => (state.1, state.2.push n)
    | none => (state.1.insert item state.1.size, state.2.push state.1.size)
  let (known, lefts) := left.foldl number (∅, #[])
  let (_, rights) := right.foldl number (known, #[])
  ⟨lefts, rights⟩

/-- Items without a partner, in each of the two lists. -/
structure Changes where
  left : Array Bool
  right : Array Bool
deriving Inhabited

/-- Whether two items are equal. -/
def agree (pair : Alignment) (x y : Int) : Bool :=
  0 ≤ x && 0 ≤ y && (pair.left[x.toNat]?).isSome && pair.left[x.toNat]? == pair.right[y.toNat]?

/-- Parts of the two lists that are compared. -/
structure Window where
  x0 : Int
  x1 : Int
  y0 : Int
  y1 : Int
deriving Inhabited

/-- Go on while items are equal. -/
def forward (pair : Alignment) (window : Window) : (fuel : Nat) → (x y : Int) → Int × Int
  | 0, x, y => (x, y)
  | fuel + 1, x, y =>
    if x < window.x1 && y < window.y1 && pair.agree x y then
      forward pair window fuel (x + 1) (y + 1)
    else (x, y)

/-- Go back while items are equal. -/
def backward (pair : Alignment) (window : Window) : (fuel : Nat) → (x y : Int) → Int × Int
  | 0, x, y => (x, y)
  | fuel + 1, x, y =>
    if window.x0 < x && window.y0 < y && pair.agree (x - 1) (y - 1) then
      backward pair window fuel (x - 1) (y - 1)
    else (x, y)

/-! ## The middle of a way -/

/-- How far a search has come on each diagonal, and the diagonals that it has reached. -/
structure Front where
  reach : Array Int
  least : Int
  greatest : Int
deriving Inhabited

namespace Window

/-- The size of a window. -/
def size (window : Window) : Nat := ((window.x1 - window.x0) + (window.y1 - window.y0)).toNat

/-- The place of a diagonal. -/
def placeOf (window : Window) (diagonal : Int) : Nat :=
  (diagonal - (window.x0 - window.y1) + 1).toNat

/-- A search that begins on a diagonal. -/
def front (window : Window) (diagonal x : Int) : Front :=
  ⟨(Array.replicate (window.size + 3) 0).setIfInBounds (window.placeOf diagonal) x, diagonal,
    diagonal⟩

/-- How far a search has come on a diagonal. -/
def reached (window : Window) (front : Front) (diagonal : Int) : Int :=
  front.reach.getD (window.placeOf diagonal) 0

/-- Make a search wider by one diagonal on both sides, or narrower where the window ends. Nothing is
reached yet on new diagonals. -/
def widen (window : Window) (nothing : Int) (front : Front) : Front :=
  let (least, reach) := if window.x0 - window.y1 < front.least then
      (front.least - 1, front.reach.setIfInBounds (window.placeOf (front.least - 2)) nothing)
    else (front.least + 1, front.reach)
  let (greatest, reach) := if front.greatest < window.x1 - window.y0 then
      (front.greatest + 1, reach.setIfInBounds (window.placeOf (front.greatest + 2)) nothing)
    else (front.greatest - 1, reach)
  ⟨reach, least, greatest⟩

/-- Go one step further from the front on each second diagonal, unless the search from the end is
met. -/
def advance (pair : Alignment) (window : Window) (meets : Bool) (back : Front) :
    (fuel : Nat) → (diagonal : Int) → Front → Except (Int × Int) Front
  | 0, _, front => .ok front
  | fuel + 1, diagonal, front =>
    if diagonal < front.least then .ok front
    else
      let below := window.reached front (diagonal - 1)
      let above := window.reached front (diagonal + 1)
      let begun := if below < above then above else below + 1
      let (x, y) := forward pair window (window.size + 1) begun (begun - diagonal)
      if meets && back.least ≤ diagonal && diagonal ≤ back.greatest
          && window.reached back diagonal ≤ x then .error (x, y)
      else
        advance pair window meets back fuel (diagonal - 2)
          { front with reach := front.reach.setIfInBounds (window.placeOf diagonal) x }

/-- Go one step further from the end on each second diagonal, unless the search from the front is
met. -/
def retreat (pair : Alignment) (window : Window) (meets : Bool) (front : Front) :
    (fuel : Nat) → (diagonal : Int) → Front → Except (Int × Int) Front
  | 0, _, back => .ok back
  | fuel + 1, diagonal, back =>
    if diagonal < back.least then .ok back
    else
      let below := window.reached back (diagonal - 1)
      let above := window.reached back (diagonal + 1)
      let begun := if below < above then below else above - 1
      let (x, y) := backward pair window (window.size + 1) begun (begun - diagonal)
      if meets && front.least ≤ diagonal && diagonal ≤ front.greatest
          && x ≤ window.reached front diagonal then .error (x, y)
      else
        retreat pair window meets front fuel (diagonal - 2)
          { back with reach := back.reach.setIfInBounds (window.placeOf diagonal) x }

/-- Search from both ends until the searches meet. -/
def meet (pair : Alignment) (window : Window) (odd : Bool) :
    (fuel : Nat) → (front back : Front) → Int × Int
  | 0, _, _ => (window.x0, window.y0)
  | fuel + 1, front, back =>
    let front := window.widen (-1) front
    match window.advance pair odd back (window.size + 3) front.greatest front with
    | .error middle => middle
    | .ok front =>
      let back := window.widen (2 ^ 62) back
      match window.retreat pair (!odd) front (window.size + 3) back.greatest back with
      | .error middle => middle
      | .ok back => meet pair window odd fuel front back

/-- A point in the middle of a shortest way. -/
def middle (pair : Alignment) (window : Window) : Int × Int :=
  let first := window.x0 - window.y0
  let last := window.x1 - window.y1
  window.meet pair ((first - last) % 2 != 0) (window.size + 1) (window.front first window.x0)
    (window.front last window.x1)

end Window

/-! ## Items without a partner -/

/-- Mark some items. -/
def markRange (flags : Array Bool) (first last : Int) : Array Bool :=
  (List.range (last - first).toNat).foldl (fun flags n =>
    flags.setIfInBounds (first.toNat + n) true) flags

/-- Mark the items of a window that have no partner. -/
def compare (pair : Alignment) : (fuel : Nat) → Window → Changes → Changes
  | 0, _, changes => changes
  | fuel + 1, window, changes =>
    let (x0, y0) := forward pair window (window.size + 1) window.x0 window.y0
    let window := { window with x0 := x0, y0 := y0 }
    let (x1, y1) := backward pair window (window.size + 1) window.x1 window.y1
    let window := { window with x1 := x1, y1 := y1 }
    if x0 = x1 then { changes with right := markRange changes.right y0 y1 }
    else if y0 = y1 then { changes with left := markRange changes.left x0 x1 }
    else
      let (x, y) := window.middle pair
      let changes := compare pair fuel { window with x1 := x, y1 := y } changes
      compare pair fuel { window with x0 := x, y0 := y } changes

/-- The places of the items that stand in the other list as well. -/
def shared (own other : Array Nat) : Array Nat :=
  let known : Std.HashMap Nat Unit := other.foldl (fun known n => known.insert n ()) ∅
  (Array.range own.size).filter fun place => known.contains (own.getD place 0)

/-- Mark the items without a partner. Those that do not stand in the other list are set aside
first. -/
def search (pair : Alignment) : Changes :=
  let (lefts, rights) := (shared pair.left pair.right, shared pair.right pair.left)
  let kept : Alignment :=
    ⟨lefts.map fun place => pair.left.getD place 0, rights.map fun place => pair.right.getD place 0⟩
  let found := kept.compare (lefts.size + rights.size + 1)
    ⟨0, lefts.size, 0, rights.size⟩
    ⟨Array.replicate lefts.size false, Array.replicate rights.size false⟩
  let spread (size : Nat) (places : Array Nat) (flags : Array Bool) : Array Bool :=
    places.zipIdx.foldl (fun whole (place, index) =>
      whole.setIfInBounds place (flags.getD index false)) (Array.replicate size true)
  ⟨spread pair.left.size lefts found.left, spread pair.right.size rights found.right⟩

/-! ## Moving runs of changes -/

/-- Whether an item is marked. -/
def marked (flags : Array Bool) (place : Int) : Bool :=
  0 ≤ place && flags.getD place.toNat false

/-- The first place from some place on that is not marked. -/
def nextFree (flags : Array Bool) : (fuel : Nat) → (place : Int) → Int
  | 0, place => place
  | fuel + 1, place => if marked flags place then nextFree flags fuel (place + 1) else place

/-- The last place up to some place that is not marked. -/
def lastFree (flags : Array Bool) : (fuel : Nat) → (place : Int) → Int
  | 0, place => place
  | fuel + 1, place => if marked flags place then lastFree flags fuel (place - 1) else place

/-- A run of marked items that is moved: where it begins and ends, the place in the other list that
belongs to its end, and the end at which it last stood beside a run there. -/
structure Run where
  flags : Array Bool
  first : Int
  behind : Int
  partner : Int
  corresponding : Int
deriving Inhabited

namespace Run

variable (items : Array Nat) (others : Array Bool)

/-- Whether two items of the list are equal. -/
def same (items : Array Nat) (a b : Int) : Bool :=
  0 ≤ a && 0 ≤ b && (items[a.toNat]?).isSome && items[a.toNat]? == items[b.toNat]?

/-- Put a mark at a place. -/
def mark (run : Run) (place : Int) (value : Bool) : Run :=
  { run with flags := run.flags.setIfInBounds place.toNat value }

/-- Move a run back by one item. -/
def shiftBack (run : Run) : Run :=
  let run := (run.mark (run.first - 1) true).mark (run.behind - 1) false
  { run with
    first := run.first - 1
    behind := run.behind - 1
    partner := lastFree others (others.size + 1) (run.partner - 1) }

/-- Move a run back as far as can be, through the runs before it. -/
def moveBack : (fuel : Nat) → Run → Run
  | 0, run => run
  | fuel + 1, run =>
    if 0 < run.first && same items (run.first - 1) (run.behind - 1) then
      let run := run.shiftBack others
      moveBack fuel
        { run with first := lastFree run.flags (items.size + 1) (run.first - 1) + 1 }
    else run

/-- Move a run forward as far as can be, through the runs behind it. -/
def moveForward : (fuel : Nat) → Run → Run
  | 0, run => run
  | fuel + 1, run =>
    if run.behind < items.size && same items run.first run.behind then
      let run := (run.mark run.first false).mark run.behind true
      let behind := nextFree run.flags (items.size + 1) (run.behind + 1)
      let partner := nextFree others (others.size + 1) (run.partner + 1)
      moveForward fuel { run with
        first := run.first + 1
        behind := behind
        partner := partner
        corresponding := if run.partner + 1 < partner then behind else run.corresponding }
    else run

/-- Move a run back and forward until it grows no more. -/
def settle : (fuel : Nat) → Run → Run
  | 0, run => run
  | fuel + 1, run =>
    let length := run.behind - run.first
    let run := run.moveBack items others (items.size + 1)
    let run := { run with
      corresponding := if marked others (run.partner - 1) then run.behind else items.size }
    let run := run.moveForward items others (items.size + 1)
    if run.behind - run.first = length then run else settle fuel run

/-- Move a run back to where it stands beside a run of the other list. -/
def meetPartner : (fuel : Nat) → Run → Run
  | 0, run => run
  | fuel + 1, run =>
    if run.corresponding < run.behind then meetPartner fuel (run.shiftBack others) else run

end Run

/-- Move the runs of marked items of one list. -/
def moveRuns (items : Array Nat) (others : Array Bool) :
    (fuel : Nat) → (place partner : Int) → (flags : Array Bool) → Array Bool
  | 0, _, _, flags => flags
  | fuel + 1, place, partner, flags =>
    if items.size ≤ place then flags
    else if !marked flags place then
      moveRuns items others fuel (place + 1) (nextFree others (others.size + 1) partner + 1) flags
    else
      let run : Run := ⟨flags, place, nextFree flags (items.size + 1) (place + 1),
        nextFree others (others.size + 1) partner, items.size⟩
      let run := (run.settle items others (items.size + 1)).meetPartner others (items.size + 1)
      moveRuns items others fuel run.behind run.partner run.flags

/-- How many items at the front and at the end of two lists are partners without a search. -/
structure Ends where
  front : Nat
  back : Nat
deriving DecidableEq, Repr, Inhabited

/-- How many items at the front of two lists are equal. -/
def commonFront {α : Type} [BEq α] (left right : List α) : Nat :=
  ((left.zip right).takeWhile fun (a, b) => a == b).length

/-- How many items at the front and at the end of two lists are equal, but for some of them that
stand beside the others. -/
def Ends.ofLists {α : Type} [BEq α] (margin : Nat) (left right : List α) : Ends :=
  let front := commonFront left right - margin
  let back := commonFront (left.drop front).reverse (right.drop front).reverse - margin
  ⟨front, back⟩

/-- Mark the items without a partner, where this reads best. -/
def changes (pair : Alignment) (ends : Ends) : Changes :=
  let inside (items : Array Nat) : Array Nat := items.extract ends.front (items.size - ends.back)
  let inner : Alignment := ⟨inside pair.left, inside pair.right⟩
  let found := inner.search
  let size := inner.left.size + inner.right.size
  let lefts := moveRuns inner.left found.right (2 * size + 2) 0 0 found.left
  let rights := moveRuns inner.right lefts (2 * size + 2) 0 0 found.right
  let around (flags : Array Bool) : Array Bool :=
    Array.replicate ends.front false ++ flags ++ Array.replicate ends.back false
  ⟨around lefts, around rights⟩

/-- Items of one list in the place of items of the other one: where they begin, and how many they
are. -/
structure Change where
  left : Nat
  right : Nat
  deleted : Nat
  inserted : Nat
deriving DecidableEq, Repr, Inhabited

/-- The places where the lists differ, in order. -/
def Changes.list (changes : Changes) : (fuel : Nat) → (x y : Nat) → List Change
  | 0, _, _ => []
  | fuel + 1, x, y =>
    if changes.left.size ≤ x && changes.right.size ≤ y then []
    else
      let deleted := (nextFree changes.left (changes.left.size + 1) x).toNat - x
      let inserted := (nextFree changes.right (changes.right.size + 1) y).toNat - y
      if deleted = 0 && inserted = 0 then changes.list fuel (x + 1) (y + 1)
      else ⟨x, y, deleted, inserted⟩ :: changes.list fuel (x + deleted) (y + inserted)

/-- The places where two lists differ. -/
def differences (pair : Alignment) (ends : Ends) : List Change :=
  (pair.changes ends).list (pair.left.size + pair.right.size + 1) 0 0

end Alignment

end Runbook.Program
