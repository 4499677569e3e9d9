import Runbook.Text.Utf8
import Runbook.Yaml.Token

/-!
# From tokens to nodes

The tree of a document, with its anchors and aliases still in place. Nodes are put together while
the tokens are read from left to right. Collections that are still open are kept on a stack. Some
tokens tell that a node in front of them was left out, or that a sequence without indentation of its
own has ended; these are completed before the token is taken.
-/

namespace Runbook.Yaml

/-- What may be said about a node in front of it. Anchors are of type `α`. -/
structure Properties (α : Type) where
  anchor : Option α
  tag : Option (List UInt8)
deriving DecidableEq, Repr, Inhabited

/-- Nothing is said. -/
def Properties.absent {α : Type} : Properties α := ⟨none, none⟩

/-- Whether anything is said. -/
def Properties.isPresent {α : Type} (properties : Properties α) : Bool :=
  properties.anchor.isSome || properties.tag.isSome

/-- A node whose anchors are of type `α`. -/
inductive Node (α : Type) where
  | alias (target : α)
  | scalar (properties : Properties α) (text : List Char) (plain : Bool)
  | sequence (properties : Properties α) (items : List (Node α))
  | mapping (properties : Properties α) (entries : List (Node α × Node α))
deriving Repr, Inhabited

namespace Node

variable {α : Type}

/-- A node that is left out. -/
def empty : Node α := .scalar .absent [] true

mutual

/-- How many steps it takes to walk through a node: one for a scalar or an alias, and two for the
ends of a collection. -/
def size : Node α → Nat
  | .alias _ => 1
  | .scalar _ _ _ => 1
  | .sequence _ items => sizeOfItems items + 2
  | .mapping _ entries => sizeOfEntries entries + 2

def sizeOfItems : List (Node α) → Nat
  | [] => 0
  | item :: items => size item + sizeOfItems items

def sizeOfEntries : List (Node α × Node α) → Nat
  | [] => 0
  | (key, value) :: entries => size key + size value + sizeOfEntries entries

end

end Node

/-! ## Assembly -/

/-- A node as it is written, with anchors by name. -/
abbrev WrittenNode := Node (List Char)

/-- What may come next in a mapping, or in a sequence, of which an item may be a single pair. -/
inductive Phase where
  /-- An entry or the end. -/
  | entry
  /-- The node of a key. -/
  | key
  /-- The indicator of a value, or nothing if the value is left out. -/
  | colon (key : WrittenNode)
  /-- The node of a value. -/
  | value (key : WrittenNode)
  /-- In flow collections, a comma or the end. -/
  | separator
deriving Repr, Inhabited

/-- A collection that is open. Items and entries are listed newest first. -/
inductive Frame where
  /-- The node of an item comes next if `awaiting` is set. -/
  | blockSequence (properties : Properties (List Char)) (items : List WrittenNode)
    (awaiting : Bool)
  /-- A sequence in a mapping whose items are indented no more than the keys. -/
  | indentlessSequence (properties : Properties (List Char)) (items : List WrittenNode)
    (awaiting : Bool)
  | blockMapping (properties : Properties (List Char)) (entries : List (WrittenNode × WrittenNode))
    (phase : Phase)
  | flowSequence (properties : Properties (List Char)) (items : List WrittenNode) (phase : Phase)
  | flowMapping (properties : Properties (List Char)) (entries : List (WrittenNode × WrittenNode))
    (phase : Phase)
deriving Repr, Inhabited

/-- The parts of a stream around its document. -/
inductive Stage where
  /-- Nothing has been read. -/
  | opening
  /-- Directives have been read. -/
  | directives
  /-- The document has been begun, by a mark or without one. -/
  | document (marked : Bool)
  /-- The document is complete. -/
  | complete (root : WrittenNode)
  /-- The stream has ended; it may have been empty. -/
  | ended (root : Option WrittenNode)
deriving Repr, Inhabited

/-- What the handles of tags stand for. -/
abbrev TagMeanings := List (List Char × List UInt8)

/-- The meanings that hold without directives. -/
def defaultMeanings : TagMeanings :=
  [(['!'], Text.Utf8.encode "!"), (['!', '!'], Text.Utf8.encode "tag:yaml.org,2002:")]

/-- The reading of a list of tokens. -/
structure Assembly where
  stage : Stage
  /-- Whether the version of the format has been given. -/
  versioned : Bool
  meanings : TagMeanings
  /-- The collections that are open, innermost first. -/
  frames : List Frame
  /-- The properties that have been read in front of the next node. -/
  properties : Properties (List Char)
deriving Repr, Inhabited

/-- Where a node may stand: whether block collections are allowed there, and whether a sequence may
do without indentation of its own. -/
structure Position where
  block : Bool
  indentless : Bool

namespace Assembly

/-- Nothing has been read. -/
def start : Assembly := ⟨.opening, false, [], [], .absent⟩

/-- The position of the node that comes next, if one does. -/
def position? (assembly : Assembly) : Option Position :=
  match assembly.frames, assembly.stage with
  | [], .document _ => some ⟨true, false⟩
  | [], _ => none
  | .blockSequence _ _ true :: _, _ => some ⟨true, false⟩
  | .indentlessSequence _ _ true :: _, _ => some ⟨true, false⟩
  | .blockMapping _ _ .key :: _, _ => some ⟨true, true⟩
  | .blockMapping _ _ (.value _) :: _, _ => some ⟨true, true⟩
  | .flowSequence _ _ .entry :: _, _ => some ⟨false, false⟩
  | .flowSequence _ _ .key :: _, _ => some ⟨false, false⟩
  | .flowSequence _ _ (.value _) :: _, _ => some ⟨false, false⟩
  | .flowMapping _ _ .entry :: _, _ => some ⟨false, false⟩
  | .flowMapping _ _ .key :: _, _ => some ⟨false, false⟩
  | .flowMapping _ _ (.value _) :: _, _ => some ⟨false, false⟩
  | _, _ => none

/-- Put a complete node into the innermost open collection. -/
def complete (assembly : Assembly) (node : WrittenNode) : Assembly :=
  let assembly := { assembly with properties := .absent }
  match assembly.frames with
  | [] => { assembly with stage := .complete node }
  | frame :: frames =>
    let frame := match frame with
      | .blockSequence properties items _ => .blockSequence properties (node :: items) false
      | .indentlessSequence properties items _ =>
        .indentlessSequence properties (node :: items) false
      | .blockMapping properties entries (.value key) =>
        .blockMapping properties ((key, node) :: entries) .entry
      | .blockMapping properties entries _ => .blockMapping properties entries (.colon node)
      | .flowSequence properties items .key => .flowSequence properties items (.colon node)
      | .flowSequence properties items (.colon key)
      | .flowSequence properties items (.value key) =>
        .flowSequence properties (.mapping .absent [(key, node)] :: items) .separator
      | .flowSequence properties items _ => .flowSequence properties (node :: items) .separator
      | .flowMapping properties entries .key => .flowMapping properties entries (.colon node)
      | .flowMapping properties entries (.colon key)
      | .flowMapping properties entries (.value key) =>
        .flowMapping properties ((key, node) :: entries) .separator
      | .flowMapping properties entries _ =>
        .flowMapping properties ((node, .empty) :: entries) .separator
    { assembly with frames := frame :: frames }

/-- Whether a token begins the content of a node. -/
def beginsContent (position : Position) : Token → Bool
  | .scalar _ _ => true
  | .openFlowSequence => true
  | .openFlowMapping => true
  | .openBlockSequence => position.block
  | .openBlockMapping => position.block
  | .item => position.indentless
  | _ => false

/-- Whether a token gives another property of a node. -/
def extendsProperties (properties : Properties (List Char)) : Token → Bool
  | .anchor _ => properties.anchor.isNone
  | .tag _ => properties.tag.isNone
  | _ => false

/-- Whether a token tells that the node that should come in front of it was left out. -/
def skipsNode (assembly : Assembly) (token : Token) : Bool :=
  match assembly.frames, assembly.stage with
  | [], .document true =>
    (token matches .version _ _ | .tagHandle _ _ | .documentStart | .documentEnd | .streamEnd)
  | .blockSequence _ _ true :: _, _ => (token matches .item | .closeBlock)
  | .indentlessSequence _ _ true :: _, _ => (token matches .item | .key | .value | .closeBlock)
  | .blockMapping _ _ .key :: _, _ => (token matches .key | .value | .closeBlock)
  | .blockMapping _ _ (.value _) :: _, _ => (token matches .key | .value | .closeBlock)
  | .flowSequence _ _ (.value _) :: _, _ => (token matches .comma | .closeFlowSequence)
  | .flowMapping _ _ .key :: _, _ => (token matches .value | .comma | .closeFlowMapping)
  | .flowMapping _ _ (.value _) :: _, _ => (token matches .comma | .closeFlowMapping)
  | _, _ => false

/-- Complete a node that has no content. -/
def settleNode (assembly : Assembly) (token : Token) : Assembly :=
  match assembly.position? with
  | none => assembly
  | some position =>
    if assembly.properties.isPresent then
      if beginsContent position token || extendsProperties assembly.properties token then assembly
      else assembly.complete (.scalar assembly.properties [] true)
    else if assembly.skipsNode token then assembly.complete .empty
    else assembly

/-- End a sequence without indentation of its own in front of anything but an item. -/
def settleSequence (assembly : Assembly) (token : Token) : Assembly :=
  match assembly.frames with
  | .indentlessSequence properties items false :: frames =>
    if token matches .item then assembly
    else { assembly with frames := frames }.complete (.sequence properties items.reverse)
  | _ => assembly

/-- Complete a value that is left out together with its indicator. -/
def settleValue (assembly : Assembly) (token : Token) : Assembly :=
  match assembly.frames with
  | .blockMapping properties entries (.colon key) :: frames =>
    if token matches .value then assembly
    else
      { assembly with frames := .blockMapping properties entries (.value key) :: frames }.complete
      .empty
  | .flowSequence _ _ (.colon _) :: _ | .flowMapping _ _ (.colon _) :: _ =>
    if token matches .value then assembly else assembly.complete .empty
  | _ => assembly

/-- The tag that a written tag stands for, unless its handle is unknown. -/
def meaning? (meanings : TagMeanings) (tag : WrittenTag) : Option (List UInt8) :=
  if tag.handle.isEmpty then some tag.suffix
  else (meanings.lookup tag.handle).map (· ++ tag.suffix)

/-- Open a collection. -/
def openFrame (assembly : Assembly) (frame : Properties (List Char) → Frame) : Assembly :=
  { assembly with
    frames := frame assembly.properties :: assembly.frames
    properties := .absent }

/-- Take a token that belongs to a node. -/
def takeContent (assembly : Assembly) (position : Position) (token : Token) : Option Assembly :=
  match token with
  | .alias name =>
    if assembly.properties.isPresent then none else some (assembly.complete (.alias name))
  | .anchor name =>
    if assembly.properties.anchor.isSome then none
    else some { assembly with properties := { assembly.properties with anchor := some name } }
  | .tag tag =>
    if assembly.properties.tag.isSome then none
    else do
      let meaning ← meaning? assembly.meanings tag
      return { assembly with properties := { assembly.properties with tag := some meaning } }
  | .scalar text plain => some (assembly.complete (.scalar assembly.properties text plain))
  | .openFlowSequence => some (assembly.openFrame (.flowSequence · [] .entry))
  | .openFlowMapping => some (assembly.openFrame (.flowMapping · [] .entry))
  | .openBlockSequence =>
    if position.block then some (assembly.openFrame (.blockSequence · [] false)) else none
  | .openBlockMapping =>
    if position.block then some (assembly.openFrame (.blockMapping · [] .entry)) else none
  | .item =>
    if position.indentless then some (assembly.openFrame (.indentlessSequence · [] true)) else none
  | _ => none

/-- Close the innermost collection. -/
def close (assembly : Assembly) (frames : List Frame) (node : WrittenNode) : Assembly :=
  { assembly with frames := frames }.complete node

/-- Put another state in the place of the innermost collection's. -/
def become (assembly : Assembly) (frame : Frame) (frames : List Frame) : Option Assembly :=
  some { assembly with frames := frame :: frames }

/-- Take a token inside a collection, where no properties have been read. -/
def takeStructure (assembly : Assembly) (frame : Frame) (frames : List Frame) (token : Token) :
    Option Assembly :=
  match frame, token with
  | .blockSequence properties items false, .item =>
    assembly.become (.blockSequence properties items true) frames
  | .blockSequence properties items false, .closeBlock =>
    some (assembly.close frames (.sequence properties items.reverse))
  | .indentlessSequence properties items false, .item =>
    assembly.become (.indentlessSequence properties items true) frames
  | .blockMapping properties entries .entry, .key =>
    assembly.become (.blockMapping properties entries .key) frames
  | .blockMapping properties entries .entry, .closeBlock =>
    some (assembly.close frames (.mapping properties entries.reverse))
  | .blockMapping properties entries (.colon key), .value =>
    assembly.become (.blockMapping properties entries (.value key)) frames
  | .flowSequence properties items .entry, .key =>
    assembly.become (.flowSequence properties items .key) frames
  | .flowSequence properties items .entry, .closeFlowSequence =>
    some (assembly.close frames (.sequence properties items.reverse))
  | .flowSequence properties items .separator, .comma =>
    assembly.become (.flowSequence properties items .entry) frames
  | .flowSequence properties items .separator, .closeFlowSequence =>
    some (assembly.close frames (.sequence properties items.reverse))
  | .flowSequence properties items .key, .value
  | .flowSequence properties items .key, .comma
  | .flowSequence properties items .key, .closeFlowSequence =>
    assembly.become (.flowSequence properties items (.colon .empty)) frames
  | .flowSequence properties items (.colon key), .value =>
    assembly.become (.flowSequence properties items (.value key)) frames
  | .flowMapping properties entries .entry, .key =>
    assembly.become (.flowMapping properties entries .key) frames
  | .flowMapping properties entries .entry, .closeFlowMapping =>
    some (assembly.close frames (.mapping properties entries.reverse))
  | .flowMapping properties entries .separator, .comma =>
    assembly.become (.flowMapping properties entries .entry) frames
  | .flowMapping properties entries .separator, .closeFlowMapping =>
    some (assembly.close frames (.mapping properties entries.reverse))
  | .flowMapping properties entries (.colon key), .value =>
    assembly.become (.flowMapping properties entries (.value key)) frames
  | _, _ => none

/-- Take a directive in front of the document. No directive may be given twice. -/
def takeDirective (assembly : Assembly) : Token → Option Assembly
  | .version major minor =>
    if assembly.versioned || major != 1 || !(minor == 1 || minor == 2) then none
    else some { assembly with stage := .directives, versioned := true }
  | .tagHandle handle meaning =>
    if (assembly.meanings.lookup handle).isSome then none
    else
      some { assembly with
        stage := .directives
        meanings := assembly.meanings ++ [(handle, meaning)] }
  | _ => none

/-- Begin the document; the meanings of tags that no directive gives are the default ones. -/
def beginDocument (assembly : Assembly) (marked : Bool) : Assembly :=
  { assembly with
    stage := .document marked
    meanings := assembly.meanings ++ defaultMeanings }

/-- Take a token outside of all collections, where no properties have been read. -/
def takeOutside (assembly : Assembly) (token : Token) : Option Assembly :=
  match assembly.stage, token with
  | .opening, .version _ _ => assembly.takeDirective token
  | .opening, .tagHandle _ _ => assembly.takeDirective token
  | .directives, .version _ _ => assembly.takeDirective token
  | .directives, .tagHandle _ _ => assembly.takeDirective token
  | .opening, .documentStart => some (assembly.beginDocument true)
  | .directives, .documentStart => some (assembly.beginDocument true)
  | .opening, .streamEnd => some { assembly with stage := .ended none }
  | .opening, token => (assembly.beginDocument false).takeContent ⟨true, false⟩ token
  | .complete _, .documentEnd => some assembly
  | .complete root, .streamEnd => some { assembly with stage := .ended (some root) }
  | _, _ => none

/-- Take a token when everything in front of it is complete. -/
def take (assembly : Assembly) (token : Token) : Option Assembly :=
  let structural := match assembly.frames with
    | [] => assembly.takeOutside token
    | frame :: frames => assembly.takeStructure frame frames token
  match assembly.position?, assembly.properties.isPresent, structural with
  | _, false, some taken => some taken
  | some position, _, _ => assembly.takeContent position token
  | none, _, _ => none

/-- Read one token. -/
def step (assembly : Assembly) (token : Token) : Option Assembly :=
  (((assembly.settleNode token).settleSequence token).settleValue token).take token

end Assembly

/-- The root node of a list of tokens, `none` inside for an empty stream. -/
def document (tokens : List Token) : Option (Option WrittenNode) := do
  match (← tokens.foldlM Assembly.step .start).stage with
  | .ended root => some root
  | _ => none

end Runbook.Yaml
