import Runbook.Shell.Session

/-!
# Tildes

A tilde at the front of a word stands for the home of the user, or for that of another user whose
name stands behind it.
-/

namespace Runbook.Shell

namespace Tilde

/-- The homes of the users of every machine. -/
def homes : List (String × String) :=
  [("root", "/root"), ("daemon", "/usr/sbin"), ("bin", "/bin"), ("sys", "/dev"), ("sync", "/bin"),
    ("games", "/usr/games"), ("man", "/var/cache/man"), ("lp", "/var/spool/lpd"),
    ("mail", "/var/mail"), ("news", "/var/spool/news"), ("uucp", "/var/spool/uucp"),
    ("proxy", "/bin"), ("www-data", "/var/www"), ("backup", "/var/backups"), ("list", "/var/list"),
    ("irc", "/run/ircd"), ("_apt", "/nonexistent"), ("nobody", "/nonexistent")]

/-- The directory that a tilde stands for with a name behind it. -/
def place? (session : Session) (name : String) : Option String :=
  let home? := session.bindings.get? "HOME"
  if session.isExtended then
    match name with
    | "" => some (home?.getD "/root")
    | "+" => session.bindings.get? "PWD"
    | "-" => session.bindings.get? "OLDPWD"
    | name => homes.lookup name
  else (if name = "" then home? else homes.lookup name).filter (· != "")

/-- The characters without quotes at the front of a word up to one that stops them, and the word
behind them. -/
def spanBare (stops : Char → Bool) : Word → List Char × Word
  | .text false chars :: rest =>
    let (front, behind) := chars.span (!stops ·)
    if behind.isEmpty then
      let (more, rest) := spanBare stops rest
      (front ++ more, rest)
    else (front, .text false behind :: rest)
  | rest => ([], rest)

/-- Whether a word is over, or a character without quotes comes next in it. -/
def isBareNext : Word → Bool
  | [] | .text false _ :: _ => true
  | _ => false

/-- How many characters without quotes a word has. -/
def bareLength (word : Word) : Nat :=
  word.foldl (fun n piece => match piece with
    | .text false chars => n + chars.length
    | _ => n) 0

/-- Put in what tildes stand for: one at the front of a word, and in what is given to a variable
those behind colons as well. -/
def expand (session : Session) (isGiven : Bool) : (fuel : Nat) → Word → Word
  | 0, word => word
  | fuel + 1, word =>
    let (front, behind) := spanBare (fun c => c == '/' || (isGiven && c == ':')) word
    let head : Word := match front with
      | '~' :: name =>
        match if isBareNext behind then place? session (String.ofList name) else none with
        | some place => [.text true place.toList]
        | none => [.text false front]
      | [] => []
      | front => [.text false front]
    if !isGiven then head ++ behind
    else
      let (middle, later) := spanBare (· == ':') behind
      let middle : Word := if middle.isEmpty then [] else [.text false middle]
      match later with
      | .text false (':' :: chars) :: rest =>
        head ++ middle ++ .text false [':'] :: expand session isGiven fuel
          (if chars.isEmpty then rest else .text false chars :: rest)
      | piece :: rest => head ++ middle ++ piece :: skip session fuel rest
      | [] => head ++ middle
where
  /-- Look for the next colon behind something that is quoted or a value. -/
  skip (session : Session) : (fuel : Nat) → Word → Word
    | 0, word => word
    | fuel + 1, word =>
      let (middle, later) := spanBare (· == ':') word
      let middle : Word := if middle.isEmpty then [] else [.text false middle]
      match later with
      | .text false (':' :: chars) :: rest =>
        middle ++ .text false [':'] :: expand session true fuel
          (if chars.isEmpty then rest else .text false chars :: rest)
      | piece :: rest => middle ++ piece :: skip session fuel rest
      | [] => middle

/-- Whether a word has a tilde without quotes. -/
def occurs (word : Word) : Bool :=
  word.any fun piece => match piece with
    | .text false chars => chars.contains '~'
    | _ => false

end Tilde

namespace Session

open Tilde

/-- Put in what tildes stand for in what is given to a variable. -/
def withHomes (session : Session) (word : Word) : Word :=
  if occurs word then expand session true (2 * bareLength word + 2 * word.length + 2) word else word

/-- Put in what a tilde stands for at the front of a word. In the extended language a word may also
look as if it gave something to a variable. -/
def withHome (session : Session) (word : Word) : Word :=
  if !occurs word then word
  else
    let (name, behind) := spanBare (· == '=') word
    let isName := name.head?.any Token.isNameStart && name.all Token.isNameChar
    match session.isExtended && isName, behind with
    | true, .text false ('=' :: chars) :: rest =>
      [.text false (name ++ ['='])]
        ++ session.withHomes (if chars.isEmpty then rest else .text false chars :: rest)
    | _, _ => expand session false 1 word

end Session

end Runbook.Shell
