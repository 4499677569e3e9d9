import Runbook.Program.Lines
import Runbook.Shell.Pattern

/-!
# Styles of listings

How the names in directories are shown: which of them, in what order, and in what form.
-/

namespace Runbook.Program.Listing

/-- The form of a listing. -/
inductive Shape where
  /-- A row with all that is known about each entry. -/
  | long
  | single
  | commas
  /-- Columns that are filled from left to right. -/
  | across
  /-- Columns that are filled from top to bottom. -/
  | columns
deriving DecidableEq, Repr, Inhabited

/-- What decides on the order of names. -/
inductive Order where
  | name
  | none
  | time
  | size
  | ending
  | version
  | width
deriving DecidableEq, Repr, Inhabited

/-- Which marks stand behind names. -/
inductive Marks where
  | none
  | slash
  | kind
  | full
deriving DecidableEq, Repr, Inhabited

/-- How names are written that have special characters in them. -/
inductive Quoting where
  | literal
  | questions
  | shell
  | shellAlways
  | quoted
  | quotedIfNeeded
  | escaped
  | marked
deriving DecidableEq, Repr, Inhabited

/-- Which names that begin with a dot are shown. -/
inductive Hidden where
  | none
  | almostAll
  | all
deriving DecidableEq, Repr, Inhabited

/-- How sizes are written: in bytes, in larger units, or shortened with a base. -/
inductive Scale where
  | bytes
  | blocks
  | short (base : Nat)
deriving DecidableEq, Repr, Inhabited

/-- A pattern for names that are left out. -/
abbrev Pattern := List Shell.PatternPart

/-- The style of a listing. -/
structure Style where
  shape : Shape
  order : Order
  isReversed : Bool
  directoriesFirst : Bool
  marks : Marks
  quoting : Quoting
  hidden : Hidden
  ignored : List Pattern
  /-- Patterns for names that are left out unless all are asked for. -/
  shy : List Pattern
  showsBlocks : Bool
  showsNumbers : Bool
  numericOwners : Bool
  showsOwner : Bool
  showsGroup : Bool
  scale : Scale
  isRecursive : Bool
  /-- Directories are shown themselves, and not what is in them. -/
  asEntries : Bool
  followsLinks : Bool
  lineWidth : Nat
  /-- The form of points in time, or complaints that there is none. -/
  timeForm : Except (List String) String
  /-- What stands behind each name of a simple list. -/
  ending : String
deriving Inhabited

/-! ## Names -/

/-- A name with backslashes in front of what would not show, and of other characters. -/
def escape (others : List Char) (name : String) : String :=
  String.ofList ((Text.Octets.toBytes name).flatMap fun byte =>
    let c := Char.ofNat byte.toNat
    (Mention.escape? byte).getD (if c = '\\' ∨ others.contains c then ['\\', c] else [c]))

/-- Whether a byte shows. -/
def isVisible (byte : UInt8) : Bool := 32 ≤ byte && byte < 127

/-- A name as it is shown. -/
def Quoting.text (quoting : Quoting) (name : String) : String :=
  match quoting with
  | .literal => name
  | .questions =>
    String.ofList ((Text.Octets.toBytes name).map fun byte =>
      if isVisible byte then Char.ofNat byte.toNat else '?')
  | .shell => Mention.shellWord name
  | .shellAlways => Mention.shellQuoted name
  | .quoted => "\"" ++ escape ['"'] name ++ "\""
  | .quotedIfNeeded =>
    let needs := (Text.Octets.toBytes name).any fun byte =>
      !isVisible byte || byte == 34 || byte == 92
    if needs then "\"" ++ escape ['"'] name ++ "\"" else name
  | .escaped => escape [' '] name
  | .marked => Mention.marked name

/-! ## Sizes -/

/-- The letters of units, in order. -/
def unitLetters : List Char := "KMGTPEZY".toList

/-- A size in the largest unit in which it is not less than one, rounded up. Small numbers have one
digit behind the point. -/
def shortSize (base : Nat) : (units : List Char) → (weight n : Nat) → String
  | [], _, n => Decimal.digitText n
  | letter :: units, weight, n =>
    let upTo (unit : Nat) : Nat := (n + unit - 1) / unit
    let tenths := (n * 10 + weight - 1) / weight
    if n < base && weight = base then Decimal.digitText n
    else if tenths < 100 then
      Decimal.digitText (tenths / 10) ++ "." ++ Decimal.digitText (tenths % 10)
        ++ String.ofList [letter]
    else if upTo weight < base || units.isEmpty then
      Decimal.digitText (upTo weight) ++ String.ofList [letter]
    else shortSize base units (weight * base) n

/-- A size as it is shown. -/
def Scale.text (scale : Scale) (n : Nat) : String :=
  match scale with
  | .bytes => Decimal.digitText n
  | .blocks => Decimal.digitText ((n + 1023) / 1024)
  | .short base =>
    shortSize base (if base = 1000 then 'k' :: unitLetters.tail else unitLetters) base n

/-! ## Options -/

/-- The options of the program that lists files. -/
def table : OptionTable := .ofText "a|all A|almost-all b|escape B|ignore-backups c C d|directory f
  F|classify? g G|no-group h|human-readable H|dereference-command-line i|inode I|ignore:
  k|kibibytes l L|dereference m n|numeric-uid-gid N|literal o p q|hide-control-chars Q|quote-name
  r|reverse R|recursive s|size S t T|tabsize: u U v w|width: x X Z|context 1 author block-size:
  color? file-type format: full-time group-directories-first hide: hyperlink? indicator-style:
  quoting-style: show-control-chars si sort: time: time-style: zero dired
  dereference-command-line-symlink-to-dir"

/-- Why options are refused: a code and complaints. -/
abbrev Refusal := UInt8 × List String

/-- Choose by a word of an option, or by the front of one, out of groups of words that mean the
same. -/
def choose {α : Type} (name option : String) (groups : List (List String × α)) (word : String) :
    Except Refusal α :=
  let whole := groups.find? fun (words, _) => words.contains word
  let begun := groups.filter fun (words, _) => words.any (·.startsWith word)
  match whole, begun with
  | some (_, value), _ | none, [(_, value)] => .ok value
  | none, others =>
    .error (1, [name ++ ": " ++ (if others.isEmpty then "invalid" else "ambiguous") ++ " argument "
        ++ Mention.marked word ++ " for " ++ Mention.marked option, "Valid arguments are:"]
      ++ groups.map (fun (words, _) => "  - " ++ ", ".intercalate (words.map Mention.marked))
      ++ [Tool.helpHint name])

/-- The shapes by the words for them. -/
def shapeWords : List (List String × Shape) :=
  [(["verbose", "long"], .long), (["commas"], .commas), (["horizontal", "across"], .across),
    (["vertical"], .columns), (["single-column"], .single)]

/-- The orders by the words for them. -/
def orderWords : List (List String × Order) :=
  [(["none"], .none), (["time"], .time), (["size"], .size), (["extension"], .ending),
    (["version"], .version), (["width"], .width)]

/-- The marks by the words for them. -/
def markWords : List (List String × Marks) :=
  [(["none"], .none), (["slash"], .slash), (["file-type"], .kind), (["classify"], .full)]

/-- The ways to write names by the words for them. -/
def quotingWords : List (List String × Quoting) :=
  [(["literal"], .literal), (["shell"], .shell), (["shell-always"], .shellAlways),
    (["shell-escape"], .shell), (["shell-escape-always"], .shellAlways), (["c"], .quoted),
    (["c-maybe"], .quotedIfNeeded), (["escape"], .escaped), (["locale"], .marked),
    (["clocale"], .quoted)]

/-- The words for when something is done. -/
def whenWords : List (List String × Unit) :=
  [(["always", "yes", "force"], ()), (["never", "no", "none"], ()),
    (["auto", "tty", "if-tty"], ())]

/-- The forms of points in time by the words for them. -/
def timeForms : List (String × String) :=
  [("full-iso", "%Y-%m-%d %H:%M:%S.%N %z"), ("long-iso", "%Y-%m-%d %H:%M"), ("iso", "%m-%d %H:%M"),
    ("locale", "%b %e %H:%M")]

/-- The form of points in time that a word stands for. -/
def timeFormOf (name word : String) : Except (List String) String :=
  if word.startsWith "+" then .ok (String.ofList word.toList.tail)
  else
    let plain :=
      if word.startsWith "posix-" then String.ofList (word.toList.drop 6) else word
    match timeForms.lookup plain with
    | some form => .ok form
    | none =>
      .error ([name ++ ": invalid argument " ++ Mention.marked word ++ " for 'time style'",
        "Valid arguments are:"] ++ timeForms.map (fun (word, _) => "  - [posix-]" ++ word)
        ++ ["  - +FORMAT (e.g., +%H:%M) for a 'date'-style format", Tool.helpHint name])

/-- Read a pattern. -/
def readPattern (text : String) : Pattern :=
  let chars := text.toList.map ((false, ·))
  Shell.PatternPart.ofChars (chars.length + 1) chars

/-- Change a style by an option, or complain. -/
def give (name : String) (style : Style) :
    (option : String × Option String) → Except Refusal Style
  | ("a", _) => return { style with hidden := .all }
  | ("A", _) => return { style with hidden := .almostAll }
  | ("b", _) => return { style with quoting := .escaped }
  | ("B", _) => return { style with ignored := readPattern "*~" :: style.ignored }
  | ("C", _) => return { style with shape := .columns }
  | ("d", _) => return { style with asEntries := true }
  | ("f", _) =>
    return { style with hidden := .all, order := .none, shape := if style.shape = .long then .single
      else style.shape }
  | ("F", some word) => do
    choose name "--classify" whenWords word
    return style
  | ("F", none) => return { style with marks := .full }
  | ("file-type", _) => return { style with marks := .kind }
  | ("p", _) => return { style with marks := .slash }
  | ("indicator-style", some word) =>
    return { style with marks := ← choose name "--indicator-style" markWords word }
  | ("g", _) => return { style with shape := .long, showsOwner := false }
  | ("G", _) => return { style with showsGroup := false }
  | ("o", _) => return { style with shape := .long, showsGroup := false }
  | ("n", _) => return { style with shape := .long, numericOwners := true }
  | ("l", _) => return { style with shape := .long }
  | ("full-time", _) =>
    return { style with shape := .long, timeForm := timeFormOf name "full-iso" }
  | ("time-style", some word) => return { style with timeForm := timeFormOf name word }
  | ("h", _) => return { style with scale := .short 1024 }
  | ("si", _) => return { style with scale := .short 1000 }
  | ("k", _) => return style
  | ("block-size", some word) =>
    return { style with scale := if word.endsWith "K" || word.endsWith "k" then .blocks else .bytes }
  | ("i", _) => return { style with showsNumbers := true }
  | ("I", some text) => return { style with ignored := readPattern text :: style.ignored }
  | ("hide", some text) => return { style with shy := readPattern text :: style.shy }
  | ("L", _) => return { style with followsLinks := true }
  | ("m", _) => return { style with shape := .commas }
  | ("N", _) => return { style with quoting := .literal }
  | ("q", _) => return { style with quoting := .questions }
  | ("Q", _) => return { style with quoting := .quoted }
  | ("quoting-style", some word) =>
    return { style with quoting := ← choose name "--quoting-style" quotingWords word }
  | ("r", _) => return { style with isReversed := true }
  | ("R", _) => return { style with isRecursive := true }
  | ("s", _) => return { style with showsBlocks := true }
  | ("S", _) => return { style with order := .size }
  | ("t", _) => return { style with order := .time }
  | ("U", _) => return { style with order := .none }
  | ("v", _) => return { style with order := .version }
  | ("X", _) => return { style with order := .ending }
  | ("sort", some word) => return { style with order := ← choose name "--sort" orderWords word }
  | ("w", some text) =>
    match Decimal.readNatural (2 ^ 62) text.toList with
    | some n => return { style with lineWidth := n }
    | none => throw (2, [name ++ ": invalid line width: " ++ Mention.marked text])
  | ("T", some text) =>
    match Decimal.readNatural (2 ^ 62) text.toList with
    | some _ => return style
    | none => throw (2, [name ++ ": invalid tab size: " ++ Mention.marked text])
  | ("x", _) => return { style with shape := .across }
  | ("1", _) => return { style with shape := if style.shape = .long then .long else .single }
  | ("format", some word) =>
    return { style with shape := ← choose name "--format" shapeWords word }
  | ("group-directories-first", _) => return { style with directoriesFirst := true }
  | ("color", some word) => do
    choose name "--color" whenWords word
    return style
  | ("zero", _) => return { style with ending := "\x00", shape := .single, quoting := .literal }
  | _ => return style

/-- The style without options. -/
def usual : Style where
  shape := .single
  order := .name
  isReversed := false
  directoriesFirst := false
  marks := .none
  quoting := .literal
  hidden := .none
  ignored := []
  shy := []
  showsBlocks := false
  showsNumbers := false
  numericOwners := false
  showsOwner := true
  showsGroup := true
  scale := .bytes
  isRecursive := false
  asEntries := false
  followsLinks := false
  lineWidth := 80
  timeForm := .ok "%b %e %H:%M"
  ending := "\n"

end Runbook.Program.Listing
