import Runbook.Dictionary
import Runbook.Http.Header
import Runbook.Http.Percent
import Runbook.Http.Url
import Runbook.Invocation

/-!
# Outgoing requests

What is sent for a request: an address in normal form, header fields, and a body. A request with
an address or a field that cannot be sent is refused. The name and the password in an address are
not part of what a request asks for: they are taken out of it and sent in a header field. The fields
of a form are one text, with equality signs behind the names and ampersands between the fields.
-/

namespace Runbook.Http

namespace Base64

/-- The character for a number of six bits. -/
def digit (n : Nat) : Char :=
  Char.ofNat <|
    if n < 26 then 65 + n else if n < 52 then 71 + n else if n < 62 then n - 4
    else if n = 62 then 43 else 47

/-- Three bytes at a time become four characters, and an equality sign stands for each byte that is
missing at the end. -/
def encode : List UInt8 → List Char
  | [] => []
  | [a] => [digit (a.toNat / 4), digit (a.toNat % 4 * 16), '=', '=']
  | [a, b] =>
    [digit (a.toNat / 4), digit (a.toNat % 4 * 16 + b.toNat / 16), digit (b.toNat % 16 * 4), '=']
  | a :: b :: c :: rest =>
    digit (a.toNat / 4) :: digit (a.toNat % 4 * 16 + b.toNat / 16)
      :: digit (b.toNat % 16 * 4 + c.toNat / 64) :: digit (c.toNat % 64) :: encode rest

end Base64

namespace Url

/-- The name and the password of the user that an address names. -/
def credentials (url : Url) : Option (String × Option String) := do
  let username ← Text.Utf8.decode (Percent.decode url.username.toList)
  let password := url.password.bind fun text => Text.Utf8.decode (Percent.decode text.toList)
  if username = "" ∧ password.isNone then none else return (username, password)

/-- The value of the field that sends a name and a password. -/
def authorization (username : String) (password : Option String) : String :=
  "Basic " ++ String.ofList
    (Base64.encode (Text.Utf8.encode (username ++ ":" ++ password.getD "")))

end Url

end Runbook.Http

/-! ## Forms -/

namespace Runbook.Http.Form

/-- The characters that stand for themselves. -/
def isPlain (c : Char) : Bool := c.isAlphanum || c == '*' || c == '-' || c == '.' || c == '_'

/-- A name or a value in encoded form. A plus sign stands for a space. -/
def encodeText (text : String) : List Char :=
  text.toList.flatMap fun c =>
    if c == ' ' then ['+'] else Percent.encodeChar (!isPlain ·) c

/-- A form in encoded form. -/
def encode (fields : Dictionary String) : String :=
  String.ofList <| ['&'].intercalate <| fields.map fun (name, value) =>
    encodeText name ++ '=' :: encodeText value

end Runbook.Http.Form

/-! ## Requests -/

namespace Runbook.Http

/-- A request that can be sent. -/
structure Outbound where
  method : HttpMethod
  url : Url
  headers : Headers
  body : Option String
deriving DecidableEq, Repr, Inhabited

/-- Why a request cannot be sent. -/
inductive BuildError where
  | address
  | noHost (url : Url)
  | field
  | contentType
deriving DecidableEq, Repr, Inhabited

/-- The wording of a refusal. -/
def BuildError.message : BuildError → String
  | .address => "builder error"
  | .noHost url => "builder error for url (" ++ url.text ++ ")"
  | .field => "builder error"
  | .contentType => "invalid contentType: failed to parse header value"

namespace Outbound

/-- The name of the field that tells the type of a body. -/
def contentTypeName : String := "content-type"

/-- The type of a body, where the kind of the body implies one. -/
def impliedType {α : Type} : Body α → Option String
  | .form _ => some "application/x-www-form-urlencoded"
  | .json _ => some "application/json"
  | _ => none

/-- The text of a body. -/
def bodyText : Body String → Option String
  | .empty => none
  | .raw text => some text
  | .form fields => some (Form.encode fields)
  | .json value => some (Json.text value)

/-- Read the address of a request, which has to name a host. -/
def readAddress (text : String) : Except BuildError Url :=
  match Url.parse text with
  | none => .error .address
  | some url => if url.hasHost then .ok url else .error (.noHost url)

/-- The fields for the user that an address names, and the address without the user. -/
def takeUser (url : Url) : Url × Headers :=
  match url.credentials with
  | none => (url, [])
  | some (username, password) =>
    (url.withoutUser, [("authorization", Url.authorization username password)])

/-- Read the fields of a request. -/
def readFields (fields : Dictionary String) : Except BuildError Headers :=
  fields.mapM fun (name, value) =>
    match Header.read name value with
    | some field => .ok field
    | none => .error .field

/-- Tell the type of the body. A type that the task gives replaces all others, and one that the
body implies is only a default. -/
def withContentType (given implied : Option String) (headers : Headers) :
    Except BuildError Headers :=
  let headers := match implied with
    | some type => headers.setDefault contentTypeName type
    | none => headers
  match given with
  | none => .ok headers
  | some text =>
    match Header.readValue text with
    | some type => .ok (headers.set contentTypeName type)
    | none => .error .contentType

/-- Make a request ready to be sent. -/
def build (request : HttpRequest) : Except BuildError Outbound := do
  let (url, userFields) := takeUser (← readAddress request.url)
  let fields ← readFields request.headers
  let headers ←
    withContentType request.contentType (impliedType request.body) (userFields ++ fields)
  return ⟨request.method, url, headers, bodyText request.body⟩

end Outbound

end Runbook.Http
