import Runbook.Http.Host
import Runbook.Http.Percent

/-!
# Web addresses

An address is read leniently, as web clients do, and written in one normal form: the scheme and the
host in lower case, dot segments removed, and characters encoded where they have to be.
-/

/-! ## Paths

A path is read segment by segment. Segments of dots stand for directories, and the letter of a drive
in front of a path is never given up for the directory above it. -/

namespace Runbook.Http.Path

/-- The characters that are encoded everywhere: controls and all beyond ASCII. -/
def isControl (c : Char) : Bool := c.toNat < 0x20 || 0x7E < c.toNat

/-- The characters that are encoded in a fragment. -/
def inFragmentSet (c : Char) : Bool :=
  isControl c || c == ' ' || c == '"' || c == '<' || c == '>' || c == '\x60'

/-- The characters that are encoded in a path. -/
def inPathSet (c : Char) : Bool :=
  inFragmentSet c || c == '#' || c == '?' || c == '\x7b' || c == '\x7d'

/-- Whether a character separates the segments of a path. -/
def isSlash (special : Bool) (c : Char) : Bool := c == '/' || (special && c == '\\')

/-- The pieces of a text between its slashes. -/
def splitSlashes (special : Bool) (chars : List Char) : List (List Char) :=
  (chars.map fun c => if isSlash special c then '/' else c).splitOn '/'

/-- Whether a segment stands for the directory that it is in. -/
def isSingleDot (segment : List Char) : Bool :=
  let lower := segment.map Char.toLower
  lower == ['.'] || lower == ['%', '2', 'e']

/-- Whether a segment stands for the directory above. -/
def isDoubleDot (segment : List Char) : Bool :=
  let lower := segment.map Char.toLower
  [['.', '.'], ['.', '%', '2', 'e'], ['%', '2', 'e', '.'], ['%', '2', 'e', '%', '2', 'e']].contains
    lower

/-- Whether a text names a drive: a letter and a colon or a bar. -/
def isDrive (chars : List Char) : Bool :=
  match chars with
  | [letter, mark] => letter.isAlpha && (mark == ':' || mark == '|')
  | _ => false

/-- Whether a segment is a drive, perhaps with a backslash behind it. -/
def beginsWithDrive (segment : List Char) : Bool :=
  isDrive (segment.take 2) && (segment.length == 2 || segment[2]? == some '\\')

/-- The segments of the directory above. A drive stays. -/
def parent (path : List String) : List String :=
  if path.getLast?.any (beginsWithDrive ·.toList) then path else path.dropLast

/-- Add a segment to a path, or follow it if it stands for a directory. A path that ends with such a
segment ends with a slash. -/
def addSegment (path : List String) (segment : List Char) (isLast : Bool) : List String :=
  if isDoubleDot segment then if isLast then parent path ++ [""] else parent path
  else if isSingleDot segment then if isLast then path ++ [""] else path
  else path ++ [String.ofList (Percent.encode inPathSet segment)]

/-- Add segments to a path. -/
def addSegments : (path : List String) → List (List Char) → List String
  | path, [] => path
  | path, segment :: rest => addSegments (addSegment path segment rest.isEmpty) rest

/-! ## Paths of files -/

/-- Whether a character is a tab or ends a line. -/
def isBreak (c : Char) : Bool := c == '\t' || c == '\n' || c == '\r'

/-- A text without its breaks. -/
def joined (chars : List Char) : List Char := chars.filter (!isBreak ·)

/-- The drive in front of a segment and the text behind it, if there is a break between them. -/
def brokenDrive? (segment : List Char) : Option (List Char × List Char) :=
  match segment.dropWhile isBreak with
  | [] => none
  | letter :: rest =>
    match rest.dropWhile isBreak with
    | ':' :: mark :: behind =>
      if letter.isAlpha && isBreak mark && !(joined behind).isEmpty then
        some ([letter, ':'], joined behind)
      else none
    | _ => none

/-- Add segments to the path of a file, and tell whether a drive takes the place of the host. A
drive comes first in a path and is written with a colon. A break behind it separates it from the
rest of its segment, and then the host stays. -/
def addFileSegments : (path : List String) → (drive : Bool) → List (List Char) →
    List String × Bool
  | path, drive, [] => (path, drive)
  | path, drive, segment :: rest =>
    let chars := joined segment
    match brokenDrive? segment with
    | some (letters, behind) =>
      if path.isEmpty then
        let names := [String.ofList letters, String.ofList (Percent.encode inPathSet behind)]
        addFileSegments names drive rest
      else addFileSegments (addSegment path chars rest.isEmpty) drive rest
    | none =>
      if path.isEmpty && isDrive chars then
        addFileSegments [String.ofList (chars.take 1 ++ [':'])] true rest
      else addFileSegments (addSegment path chars rest.isEmpty) drive rest

/-- The segments of a file's path. Empty ones in front are left out. -/
def fileSegments (path : List String) : List String :=
  match path.dropWhile (· == "") with
  | [] => [""]
  | path => path

end Runbook.Http.Path

/-! ## Addresses -/

namespace Runbook.Http

/-- The path of an address. -/
inductive UrlPath where
  /-- A path that is not divided, as of an address without a host. -/
  | plain (text : String)
  /-- The segments behind slashes. -/
  | segments (names : List String)
deriving DecidableEq, Repr, Inhabited

/-- An address. -/
structure Url where
  scheme : String
  username : String
  password : Option String
  host : Option String
  port : Option Nat
  path : UrlPath
  query : Option String
  fragment : Option String
deriving DecidableEq, Repr, Inhabited

namespace Url

open Runbook.Http.Path

/-- The schemes whose addresses always have a host, with their usual ports. -/
def specialSchemes : List (String × Nat) :=
  [("http", 80), ("https", 443), ("ws", 80), ("wss", 443), ("ftp", 21)]

/-- Whether a scheme is one that web clients treat in a special way. -/
def isSpecial (scheme : String) : Bool :=
  scheme == "file" || (specialSchemes.lookup scheme).isSome

/-- The characters that are encoded in a query. -/
def inQuerySet (special : Bool) (c : Char) : Bool :=
  isControl c || c == ' ' || c == '"' || c == '#' || c == '<' || c == '>'
    || (special && c == '\'')

/-- The characters that are encoded in the name and the password of a user. -/
def inUserSet (c : Char) : Bool :=
  inPathSet c || c == '/' || c == ':' || c == ';' || c == '=' || c == '@' || c == '[' || c == '\\'
    || c == ']' || c == '^' || c == '|'

/-- A text with the characters of a set encoded. -/
def encoded (inSet : Char → Bool) (chars : List Char) : String :=
  String.ofList (Percent.encode inSet chars)

/-- The text of an address without controls and spaces at its ends. -/
def trimmed (chars : List Char) : List Char :=
  let isPadding (c : Char) : Bool := c.toNat ≤ 0x20
  ((chars.dropWhile isPadding).reverse.dropWhile isPadding).reverse

/-- Whether a character may stand in a scheme. -/
def isSchemeChar (c : Char) : Bool := c.isAlphanum || c == '+' || c == '-' || c == '.'

/-- Read a scheme and its colon. -/
def splitScheme (chars : List Char) : Option (String × List Char) :=
  match chars with
  | [] => none
  | first :: _ =>
    match chars.dropWhile isSchemeChar with
    | ':' :: rest =>
      if first.isAlpha then
        some (String.ofList ((chars.takeWhile isSchemeChar).map Char.toLower), rest)
      else none
    | _ => none

/-- The part of a text in front of a mark, and the part behind it if the mark is there. -/
def splitMark (mark : Char) (chars : List Char) : List Char × Option (List Char) :=
  match chars.dropWhile (· != mark) with
  | [] => (chars, none)
  | _ :: rest => (chars.takeWhile (· != mark), some rest)

/-- An address of which only the scheme is known. -/
def ofScheme (scheme : String) : Url :=
  ⟨scheme, "", none, none, none, .segments [], none, none⟩

/-- The user's part of an authority, in front of the last at-sign, and the text behind it. -/
def splitUser (special : Bool) (chars : List Char) : Option (List Char) × List Char :=
  let front := chars.takeWhile (!isSlash special ·)
  match (front.reverse.dropWhile (· != '@')).reverse with
  | [] => (none, chars)
  | user => (some user.dropLast, chars.drop user.length)

/-- Read the name and the password of a user. -/
def withUser (url : Url) (user : List Char) : Url :=
  let (name, password) := splitMark ':' user
  { url with
    username := encoded inUserSet name
    password := (password.filter (!·.isEmpty)).map (encoded inUserSet) }

/-- Whether a user is named. -/
def hasUser (url : Url) : Bool := url.username != "" || url.password.isSome

/-- The host in front of a text, up to a colon or a slash. A colon in brackets belongs to it. -/
def takeHost (special : Bool) : (inBrackets : Bool) → List Char → List Char
  | _, [] => []
  | inBrackets, c :: rest =>
    if isSlash special c || (c == ':' && !inBrackets) then []
    else c :: takeHost special (c == '[' || (inBrackets && c != ']')) rest

/-- Read a host, and give the text behind it. A host may be empty if the scheme is not special,
unless a port stands behind it or a user in front of it. -/
def readHost (url : Url) (chars : List Char) : Option (Url × List Char) := do
  let host := takeHost (isSpecial url.scheme) false chars
  let rest := chars.drop host.length
  if host.isEmpty then
    if isSpecial url.scheme || url.hasUser || rest.head? == some ':' then none
    return ({ url with host := some "" }, rest)
  return ({ url with host := some (← Host.read (isSpecial url.scheme) host) }, rest)

/-- Read a port behind a colon: digits in front of a slash, or nothing. The usual port of a scheme
is left out. -/
def readPort (url : Url) (chars : List Char) : Option (Url × List Char) :=
  match chars with
  | ':' :: chars =>
    let digits := chars.takeWhile fun c => '0' ≤ c && c ≤ '9'
    let rest := chars.drop digits.length
    let port := digits.foldl (fun value c => value * 10 + (c.toNat - 48)) 0
    if 65535 < port || !(rest.isEmpty || rest.head?.any (isSlash true)) then none
    else if digits.isEmpty || specialSchemes.lookup url.scheme == some port then some (url, rest)
    else some ({ url with port := some port }, rest)
  | rest => some (url, rest)

/-- Enter the path behind an authority. The path of a special scheme is never empty. -/
def withPath (url : Url) (chars : List Char) : Url :=
  let special := isSpecial url.scheme
  match chars with
  | [] => { url with path := .segments (if special then [""] else []) }
  | first :: rest =>
    let body := if isSlash special first then rest else chars
    { url with path := .segments (addSegments [] (splitSlashes special body)) }

/-- Read what stands behind two slashes: user, host, port and path. A lone at-sign is refused unless
the address ends with it or a host follows. -/
def readHierarchy (url : Url) (ended : Bool) (chars : List Char) : Option Url := do
  let (user, rest) := splitUser (isSpecial url.scheme) chars
  let behindHost := if rest.isEmpty then !ended else rest.head?.any (isSlash (isSpecial url.scheme))
  if user == some [] && behindHost then none
  let (url, rest) ← (url.withUser (user.getD [])).readHost rest
  let (url, rest) ← url.readPort rest
  return url.withPath rest

/-- A file's address with a host and the segments of a path. A drive in front of the path takes the
place of the host. -/
def ofFile (host : String) (segments : List (List Char)) : Url :=
  let (path, drive) := addFileSegments [] false segments
  { ofScheme "file" with
    host := some (if drive then "" else host)
    path := .segments (fileSegments path) }

/-- Read what stands behind the two slashes of a file's address. The host of this machine is left
out, and a drive is no host. -/
def readFileHierarchy (chars : List Char) : Option Url := do
  let front := chars.takeWhile (!isSlash true ·)
  let rest := chars.drop front.length
  let name := joined front
  if isDrive name then return ofFile "" (splitSlashes true chars)
  let host ← if name.isEmpty then some "" else Host.read true name
  if host = "" ∨ host = "localhost" then return ofFile "" (splitSlashes true rest)
  return ofFile host (splitSlashes true rest.tail)

/-- Read the part of a file's address behind its scheme, in which breaks may stand. -/
def readFile (chars : List Char) : Option Url :=
  match chars.dropWhile isBreak with
  | [] => some (ofFile "" [[]])
  | first :: rest =>
    if !isSlash true first then some (ofFile "" (splitSlashes true (first :: rest)))
    else
      match rest.dropWhile isBreak with
      | [] => some (ofFile "" [[]])
      | second :: behind =>
        if isSlash true second then readFileHierarchy behind
        else some (ofFile "" (splitSlashes true rest))

/-- Read the part of an address between its scheme and its query. The address has ended if neither a
query nor a fragment follows. -/
def readBody (scheme : String) (ended : Bool) (chars : List Char) : Option Url :=
  let url := ofScheme scheme
  if isSpecial scheme then url.readHierarchy ended (chars.dropWhile (isSlash true))
  else
    match chars with
    | '/' :: '/' :: rest => url.readHierarchy ended rest
    | '/' :: rest =>
      some { url with path := .segments (addSegments [] (splitSlashes false rest)) }
    | rest => some { url with path := .plain (encoded isControl rest) }

/-- Enter the query and the fragment behind a path. -/
def withTail (url : Url) (query fragment : Option (List Char)) : Url :=
  { url with
    query := query.map (encoded (inQuerySet (isSpecial url.scheme)))
    fragment := fragment.map (encoded inFragmentSet) }

/-- The parts of a text in front of a query, of the query and of a fragment. -/
def splitTail (chars : List Char) : List Char × Option (List Char) × Option (List Char) :=
  let (front, fragment) := splitMark '#' chars
  let (body, query) := splitMark '?' front
  (body, query, fragment)

/-- Read an address. A text that names no scheme is none. Breaks count only behind the drive of a
file. -/
def parse (text : String) : Option Url := do
  let chars := trimmed text.toList
  let (scheme, rest) ← splitScheme (joined chars)
  if scheme = "file" then
    let (body, query, fragment) := splitTail ((chars.dropWhile (· != ':')).drop 1)
    return (← readFile body).withTail (query.map joined) (fragment.map joined)
  let (body, query, fragment) := splitTail rest
  let ended := query.isNone && fragment.isNone
  return (← readBody scheme ended body).withTail query fragment

/-- Whether an address names a host. -/
def hasHost (url : Url) : Bool := (url.host.getD "") != ""

/-- The text of a path. -/
def pathText : UrlPath → String
  | .plain text => text
  | .segments names => String.join (names.map ("/" ++ ·))

/-- The text of the user's part of an authority. -/
def userText (url : Url) : String :=
  let password := match url.password with
    | some password => ":" ++ password
    | none => ""
  if url.username = "" ∧ url.password.isNone then "" else url.username ++ password ++ "@"

/-- The host of an address and its port, unless that is the usual one. -/
def authority (url : Url) : String :=
  let port := match url.port with
    | some port => ":" ++ Decimal.digitText port
    | none => ""
  url.host.getD "" ++ port

/-- The scheme of an address and its authority. -/
def origin (url : Url) : String :=
  let slashes := match url.host, url.path with
    | some _, _ => "//"
    | none, .segments ("" :: _ :: _) => "/."
    | none, _ => ""
  url.scheme ++ ":" ++ slashes ++ url.userText ++ url.authority

/-- The text of a query with its mark. -/
def queryText (url : Url) : String :=
  match url.query with
  | some query => "?" ++ query
  | none => ""

/-- The text of an address. -/
def text (url : Url) : String :=
  let fragment := match url.fragment with
    | some fragment => "#" ++ fragment
    | none => ""
  url.origin ++ pathText url.path ++ url.queryText ++ fragment

/-- An address without the name and the password of a user. -/
def withoutUser (url : Url) : Url := { url with username := "", password := none }

/-- The port of an address, which is the usual one of its scheme if none is given. -/
def effectivePort (url : Url) : Option Nat := url.port <|> specialSchemes.lookup url.scheme

/-- The segments of a path. -/
def segments (url : Url) : List String :=
  match url.path with
  | .plain _ => []
  | .segments names => names

/-- The address that a reference without a scheme leads to. -/
def joinRelative (base : Url) (chars : List Char) : Option Url := do
  let special := isSpecial base.scheme
  let (body, query, fragment) := splitTail chars
  let slashes := (body.takeWhile (isSlash special)).length
  let withSegments (path : List String) (body : List Char) : Url :=
    { base with path := .segments (addSegments path (splitSlashes special body)) }
  if body.isEmpty then
    let tail := base.withTail query fragment
    return if query.isSome then tail else { tail with query := base.query }
  if slashes = 0 then return (withSegments base.segments.dropLast body).withTail query fragment
  if slashes = 1 then return (withSegments [] body.tail).withTail query fragment
  let ended := query.isNone && fragment.isNone
  let behind := if body.take 2 == ['/', '/'] then body.drop 2 else body.drop slashes
  return (← (ofScheme base.scheme).readHierarchy ended behind).withTail query fragment

/-- The address that a reference leads to from another address. A reference may repeat the scheme of
the other address and go on as if it had none. -/
def join (base : Url) (reference : String) : Option Url :=
  let chars := joined (trimmed reference.toList)
  match splitScheme chars with
  | some (scheme, rest) =>
    if scheme = base.scheme ∧ isSpecial scheme ∧ (rest.takeWhile (isSlash true)).length < 2 then
      joinRelative base rest
    else parse reference
  | none => joinRelative base chars

end Url

end Runbook.Http
