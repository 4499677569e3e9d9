import Runbook.Text.Utf8

/-!
# Names of options and arrays

The options of a shell of the extended language: those that belong to its settings, of which some
have letters, and those that belong to its manners. The elements of a variable are found by their
indices, which are numbers or texts.
-/

namespace Runbook.Shell.Extended.OptionName

/-- The names of the settings, with their letters if they have some. -/
def settings : List (String × Option Char) :=
  [("allexport", some 'a'), ("braceexpand", some 'B'), ("emacs", none), ("errexit", some 'e'),
    ("errtrace", some 'E'), ("functrace", some 'T'), ("hashall", some 'h'),
    ("histexpand", some 'H'), ("history", none), ("ignoreeof", none),
    ("interactive-comments", none), ("keyword", some 'k'), ("monitor", some 'm'),
    ("noclobber", some 'C'), ("noexec", some 'n'), ("noglob", some 'f'), ("nolog", none),
    ("notify", some 'b'), ("nounset", some 'u'), ("onecmd", some 't'), ("physical", some 'P'),
    ("pipefail", none), ("posix", none), ("privileged", some 'p'), ("verbose", some 'v'),
    ("vi", none), ("xtrace", some 'x')]

/-- The names of the manners. -/
def manners : List String :=
  ["autocd", "assoc_expand_once", "cdable_vars", "cdspell", "checkhash", "checkjobs",
    "checkwinsize", "cmdhist", "compat31", "compat32", "compat40", "compat41", "compat42",
    "compat43", "compat44", "complete_fullquote", "direxpand", "dirspell", "dotglob", "execfail",
    "expand_aliases", "extdebug", "extglob", "extquote", "failglob", "force_fignore",
    "globasciiranges", "globskipdots", "globstar", "gnu_errfmt", "histappend", "histreedit",
    "histverify", "hostcomplete", "huponexit", "inherit_errexit", "interactive_comments",
    "lastpipe", "lithist", "localvar_inherit", "localvar_unset", "login_shell", "mailwarn",
    "no_empty_cmd_completion", "nocaseglob", "nocasematch", "noexpand_translation", "nullglob",
    "patsub_replacement", "progcomp", "progcomp_alias", "promptvars", "restricted_shell",
    "shift_verbose", "sourcepath", "varredir_close", "xpg_echo"]

/-- The letters of the settings that are on in a shell that begins. -/
def usualLetters : List Char := ['h', 'B']

/-- The settings without letters and the manners that are on in a shell that begins. -/
def usualNames : List String :=
  "interactive-comments" ::
  ["checkwinsize", "cmdhist", "complete_fullquote", "extquote", "force_fignore",
    "globasciiranges", "globskipdots", "hostcomplete", "interactive_comments",
    "patsub_replacement", "progcomp", "promptvars", "sourcepath"]

/-- Whether a setting is on, given the letters and the names of the options that are on. -/
def isSettingOn (letters : List Char) (names : List String) (name : String) : Bool :=
  match settings.lookup name with
  | some (some letter) => letters.contains letter
  | some none => names.contains name
  | none => false

/-- The names of the settings that are on. -/
def settingsOn (letters : List Char) (names : List String) : List String :=
  (settings.map (·.1)).filter (isSettingOn letters names)

end Runbook.Shell.Extended.OptionName

/-! ## Arrays -/

namespace Runbook.Shell.Extended

/-- The elements of a variable. -/
inductive Table where
  /-- Elements by numbers, in increasing order. -/
  | indexed (elements : List (Nat × String))
  /-- Elements by texts, in the order in which the shell goes through them. -/
  | keyed (elements : List (String × String))
deriving DecidableEq, Repr, Inhabited

namespace Table

/-- The number that stands for a text where texts are looked up. -/
def digest (text : String) : UInt32 :=
  (Text.Octets.toBytes text).foldl (fun code byte => (code * 16777619) ^^^ byte.toUInt32)
    2166136261

/-- The number of shelves for texts. -/
def shelves : Nat := 1024

/-- The shelf of a text. -/
def shelf (text : String) : Nat := (digest text).toNat % shelves

/-- Whether the elements have texts as their indices. -/
def isKeyed : Table → Bool
  | .keyed _ => true
  | .indexed _ => false

/-- How many elements there are. -/
def size : Table → Nat
  | .indexed elements => elements.length
  | .keyed elements => elements.length

/-- The values in order. -/
def values : Table → List String
  | .indexed elements => elements.map (·.2)
  | .keyed elements => elements.map (·.2)

/-- The indices in order, as texts. -/
def keys : Table → List String
  | .indexed elements => elements.map fun element => toString element.1
  | .keyed elements => elements.map (·.1)

/-- The first number behind all indices. -/
def next : Table → Nat
  | .indexed elements => elements.getLast?.elim 0 (·.1 + 1)
  | .keyed elements => elements.length

/-- The index that a number stands for. Numbers below zero count from the end. -/
def place? (table : Table) (n : Int) : Option Nat :=
  if 0 ≤ n then some n.toNat
  else if -n ≤ table.next then some ((table.next : Int) + n).toNat
  else none

/-- Put a value at a number among elements in increasing order. -/
def putAt (n : Nat) (value : String) : List (Nat × String) → List (Nat × String)
  | [] => [(n, value)]
  | (m, old) :: rest =>
    if m < n then (m, old) :: putAt n value rest
    else if m = n then (n, value) :: rest
    else (n, value) :: (m, old) :: rest

/-- Put a value at a text among elements in the order of their shelves. A new one stands in front of
those on its shelf. -/
def putUnder (key value : String) (elements : List (String × String)) : List (String × String) :=
  if elements.any (·.1 == key) then
    elements.map fun element => if element.1 = key then (key, value) else element
  else
    let (before, behind) := elements.span fun element => shelf element.1 < shelf key
    before ++ (key, value) :: behind

/-- The value at a number. -/
def getAt? (table : Table) (n : Nat) : Option String :=
  match table with
  | .indexed elements => elements.lookup n
  | .keyed elements => elements.lookup (toString n)

/-- The value at a text. -/
def getUnder? (table : Table) (key : String) : Option String :=
  match table with
  | .keyed elements => elements.lookup key
  | .indexed _ => none

/-- A list of values with the numbers from zero on. -/
def ofValues (values : List String) : Table :=
  .indexed (values.zipIdx.map fun (value, n) => (n, value))

/-- Names in the order in which the shell goes through its variables. -/
def onShelves {α : Type} (entries : List (String × α)) : List (String × α) :=
  entries.mergeSort fun left right => shelf left.1 ≤ shelf right.1

end Table

end Runbook.Shell.Extended
