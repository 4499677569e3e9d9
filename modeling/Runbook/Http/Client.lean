import Runbook.Failure
import Runbook.Http.Header
import Runbook.Http.Outbound

/-!
# Networks and clients

What lies between a client and the services that it calls, how redirects are followed, and how the
response decides whether a request succeeds.
-/

/-! ## Networks

A network answers each request with a response, or the exchange is disrupted. A response may name
another address; the client then sends a request there, and goes on until a response names none. -/

namespace Runbook.Http

/-- How long to wait. -/
structure Limits where
  /-- For a connection. -/
  connect : Milliseconds
  /-- For each part of a response. -/
  read : Milliseconds
deriving DecidableEq, Repr, Inhabited

/-- Why an exchange came to no end. -/
structure Disruption where
  /-- It took too long. -/
  timedOut : Bool
  /-- There was no connection yet. -/
  connecting : Bool
deriving DecidableEq, Repr, Inhabited

/-- The answer to a request. -/
structure Response where
  status : UInt16
  headers : ResponseHeaders
  /-- The body, unless it broke off. -/
  body : Except Disruption (List UInt8)

/-- What answers requests. The state remembers the exchanges before. -/
structure Network (σ : Type) where
  exchange : Limits → Outbound → σ → Except Disruption Response × σ

/-- A network that no connection can be made in. -/
def Network.unreachable : Network Unit where
  exchange _ _ state := (.error ⟨false, true⟩, state)

/-! ## Redirects -/

namespace Redirect

/-- How many redirects are followed for one request. -/
def most : Nat := 10

/-- The fields that describe a body. -/
def bodyFields : List String :=
  ["content-type", "content-length", "content-encoding", "transfer-encoding"]

/-- The fields that are meant for one host only. -/
def privateFields : List String :=
  ["authorization", "cookie", "cookie2", "proxy-authorization", "www-authenticate"]

/-- A request without a body. -/
def withoutBody (method : HttpMethod) (request : Outbound) : Outbound :=
  { request with
    method := method
    headers := request.headers.filter (!bodyFields.contains ·.1)
    body := none }

/-- The request that is repeated after a status, if the status is that of a redirect. -/
def repeated (status : UInt16) (request : Outbound) : Option Outbound :=
  if status = 301 ∨ status = 302 then
    some (if request.method = .post then withoutBody .get request else request)
  else if status = 303 then
    some (withoutBody (if request.method = .head then .head else .get) request)
  else if status = 307 ∨ status = 308 then some request
  else none

/-- Whether two addresses lead to one service. -/
def sameService (first second : Url) : Bool :=
  first.host == second.host && first.effectivePort == second.effectivePort

/-- Send a request to another address. Private fields are left out for another service, and the
address that it comes from is told. -/
def redirected (request : Outbound) (target : Url) : Outbound :=
  let headers :=
    if sameService request.url target then request.headers
    else request.headers.filter (!privateFields.contains ·.1)
  let referer := { request.url.withoutUser with fragment := none }
  { request with
    url := target
    headers :=
      if request.url.scheme = "https" ∧ target.scheme = "http" then headers
      else headers.set "referer" referer.text }

/-- The address that a response names, as seen from the request. -/
def target? (request : Outbound) (response : Response) : Option Url := do
  let bytes ← response.headers.first? "location"
  request.url.join (← Text.Utf8.decode bytes)

/-- The request that follows a response. -/
def next (request : Outbound) (response : Response) : Option Outbound := do
  let again ← repeated response.status request
  return redirected again (← target? request response)

end Redirect

/-- Why a request gets no response. -/
inductive TransferError where
  /-- The address is none of the web. -/
  | notWeb (url : Url)
  | disrupted (url : Url) (cause : Disruption)
  | tooManyRedirects (url : Url)
deriving DecidableEq, Repr, Inhabited

/-- The wording of a transfer error. -/
def TransferError.message : TransferError → String
  | .notWeb url => "builder error for url (" ++ url.text ++ ")"
  | .disrupted url _ => "error sending request for url (" ++ url.text ++ ")"
  | .tooManyRedirects url => "error following redirect for url (" ++ url.text ++ ")"

/-- Whether an address belongs to the web. Some characters that a host may hold are not allowed
there. -/
def Url.isWeb (url : Url) : Bool :=
  (url.scheme == "http" || url.scheme == "https")
    && !(url.host.getD "").toList.any ("\"\x60\x7b\x7d".toList.contains ·)

/-- The requests that were sent for one, and the last response. -/
structure Transfer (σ : Type) where
  sent : List Outbound
  answer : Except TransferError Response
  state : σ

/-- Send a request, and follow up to `redirects` redirects. -/
def transfer {σ : Type} (network : Network σ) (limits : Limits) :
    (redirects : Nat) → Outbound → σ → Transfer σ
  | redirects, request, state =>
    if !request.url.isWeb then ⟨[], .error (.notWeb request.url), state⟩
    else
      match network.exchange limits request state with
      | (.error cause, state) => ⟨[request], .error (.disrupted request.url cause), state⟩
      | (.ok response, state) =>
        match Redirect.next request response, redirects with
        | none, _ => ⟨[request], .ok response, state⟩
        | some _, 0 => ⟨[request], .error (.tooManyRedirects request.url), state⟩
        | some again, redirects + 1 =>
          let later := transfer network limits redirects again state
          { later with sent := request :: later.sent }

end Runbook.Http

/-! ## Clients

Requests are sent by clients. A client is built for each pair of limits when it is first used, and
kept. The status of the response decides whether a request succeeds. -/

namespace Runbook.Http

/-- A client that has been built. -/
structure Client where
  /-- How many clients were built before it. -/
  number : Nat
  limits : Limits
deriving DecidableEq, Repr, Inhabited

/-- The clients that are kept, in the order in which they were built. -/
abbrev ClientCache := List Client

/-- The client for a pair of limits, which is built if it is not kept yet. -/
def ClientCache.obtain (cache : ClientCache) (limits : Limits) : Client × ClientCache :=
  match cache.find? (·.limits == limits) with
  | some client => (client, cache)
  | none =>
    let client : Client := ⟨cache.length, limits⟩
    (client, cache ++ [client])

/-- The limits of a request, where the task or the defaults give them. -/
def effectiveLimits (defaults : Limits) (request : HttpRequest) : Limits where
  connect := request.connectionTimeout.getD defaults.connect
  read := request.readTimeout.getD defaults.read

/-- The failure that a disruption means. -/
def failureOf (limits : Limits) (message : String) (cause : Disruption) : ExecutionError :=
  match cause.timedOut, cause.connecting with
  | true, true => .timeout limits.connect
  | true, false => .timeout limits.read
  | false, true => .connection message
  | false, false => .request message

/-- The failure that a transfer error means. -/
def transferFailure (limits : Limits) (error : TransferError) : ExecutionError :=
  match error with
  | .disrupted _ cause => failureOf limits error.message cause
  | _ => .request error.message

/-- Cut a text that is longer than a number of bytes, at the last boundary up to there; dots stand for
what is cut off. -/
def truncate? (text : String) (most : Nat) : Option String :=
  let bytes := Text.Utf8.encode text
  if bytes.length ≤ most then some text
  else do
    let index ← Text.Utf8.boundaryUpTo? bytes most
    return (← Text.Utf8.textBefore? bytes index) ++ "..."

/-- A text of at most a number of bytes, and dots for what is cut off. -/
def truncate (text : String) (most : Nat) : String := (truncate? text most).getD text

/-- How many bytes of a body are quoted in an error. -/
def mostQuoted : Nat := 512

/-- The type that the fields of a response tell. -/
def Response.contentType? (response : Response) : Option String :=
  (response.headers.first? Outbound.contentTypeName).map ResponseHeaders.valueText

/-- Judge a response by its status. -/
def judge (limits : Limits) (request : HttpRequest) (response : Response) :
    Except ExecutionError Output :=
  match response.body with
  | .error cause => .error (failureOf limits "error decoding response body" cause)
  | .ok bytes =>
    let body := Charset.bodyText response.contentType? bytes
    if request.accepts response.status then
      .ok ⟨body, some response.status, response.headers.collect, none⟩
    else .error (.unexpectedStatus response.status (truncate body mostQuoted))

/-- What sending one request did. -/
structure Sending (σ : Type) where
  client : Client
  /-- The requests on the wire. -/
  sent : List Outbound
  result : Except ExecutionError Output
  cache : ClientCache
  state : σ

/-- Send one request. -/
def send {σ : Type} (defaults : Limits) (network : Network σ) (request : HttpRequest)
    (cache : ClientCache) (state : σ) : Sending σ :=
  let (client, cache) := cache.obtain (effectiveLimits defaults request)
  match Outbound.build request with
  | .error cause => ⟨client, [], .error (.request cause.message), cache, state⟩
  | .ok outbound =>
    let done := transfer network client.limits Redirect.most outbound state
    let result := match done.answer with
      | .error cause => .error (transferFailure client.limits cause)
      | .ok response => judge client.limits request response
    ⟨client, done.sent, result, cache, done.state⟩

end Runbook.Http
