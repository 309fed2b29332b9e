import OlapClient.Http.Base64
import OlapClient.Http.Cookie
import OlapClient.Settings
import OlapClient.Transport.Basic

/-!
# Providers reached over HTTP

An `Endpoint` says where requests are posted, with which credentials, and holds the cookies of
the provider.  `Endpoint.post` is the message that carries a request, `Endpoint.receive` reads
the reply to it, and `overNetwork` makes a transport of both and of a network that carries
messages.
-/

namespace OlapClient.Http

open OlapClient.Number
open OlapClient.Protocol
open OlapClient.Text

/-- A message that carries a request. -/
structure Post where
  /-- The path and the query of the address. -/
  target : String
  body : Octets
  contentType : String
  accept : String
  acceptCharset : String
  action : Option String
  authorization : Option String
  cookie : Option String
  deriving DecidableEq, Repr

/-- What a provider replies to a message. -/
structure Reply where
  status : Nat
  /-- The cookie headers, in order. -/
  setCookies : List String
  body : Octets
  deriving DecidableEq, Repr

/-- A provider reached over HTTP. -/
structure Endpoint where
  /-- The address, without user name and password. -/
  url : Url
  authorization : Option String
  timeout : Option (Bounded .nat64)
  keepsCookies : Bool
  /-- The cookies of the provider; none once the endpoint is closed. -/
  cookies : Option (List Cookie)
  deriving DecidableEq, Repr

/-! ### Messages -/

/-- The octets hold those of a text. -/
def holds (body : Octets) (text : List Char) : Bool :=
  (cutMark (encode text) body).isSome

/-- The operation that a request carries, known by the tag of its element. -/
def operationOf? (body : Octets) : Option Operation :=
  [Operation.discover, .execute].find? fun operation => holds body (operationMark operation)

/-- The action that announces a request. -/
def action? (body : Octets) : Option String :=
  (operationOf? body).map Operation.action

/-- The credentials of settings, failing those the credentials of a URL. -/
def credentials? (settings : Settings) (url : Url) : Option String :=
  if settings.user ≠ "" then some (settings.user ++ ":" ++ settings.password.getD "")
  else if url.username.isEmpty then none
  else some (String.ofList (url.username ++ ':' :: url.password.getD []))

/-- The header that presents credentials. -/
def basicAuthorization (credentials : String) : String :=
  "Basic " ++ String.ofList (base64 (octets credentials))

/-- A reply with this status has no body. -/
def isBodiless (status : Nat) : Bool :=
  status == 204 || status == 304

namespace Endpoint

/-- The endpoint of settings. -/
def ofSettings (settings : Settings) : Except Failure Endpoint :=
  match Url.read settings.url with
  | .error fault => .error (.badSetting (.url fault))
  | .ok url => .ok {
      url := url.withoutUserinfo
      authorization := (credentials? settings url).map basicAuthorization
      timeout := settings.timeout
      keepsCookies := settings.cookies
      cookies := some [] }

/-- The path and the query of the address. -/
def target (e : Endpoint) : String :=
  String.ofList (e.url.path ++ e.url.query.elim [] ('?' :: ·))

/-- The message that carries a request. -/
def post (e : Endpoint) (body : Octets) : Except Failure Post :=
  match e.cookies with
  | none => .error .handleClosed
  | some cookies => .ok {
      target := e.target
      body := body
      contentType := "text/xml; charset=UTF-8"
      accept := "text/xml;q=1"
      acceptCharset := "UTF-8;q=1"
      action := action? body
      authorization := e.authorization
      cookie := cookieHeader? cookies }

/-- The endpoint with the cookies of a reply, if it keeps cookies. -/
def keep (e : Endpoint) (reply : Reply) : Endpoint :=
  if e.keepsCookies then
    { e with cookies := e.cookies.map fun cookies =>
        (reply.setCookies.filterMap Cookie.read?).foldl keepCookie cookies }
  else e

/-- The response that a reply holds.  Of a reply with the status of an error it is the failure. -/
def response (reply : Reply) : Except Failure Octets :=
  if 400 ≤ reply.status then
    .error (.httpStatus reply.status (String.ofList (decodeLossy reply.body)))
  else .ok (if isBodiless reply.status then [] else reply.body)

/-- Gives up the cookies, and with them the endpoint. -/
def close (e : Endpoint) : Endpoint :=
  { e with cookies := none }

end Endpoint

/-- A network: carries a message and gives the reply to it. -/
abbrev Network (ν : Type) : Type :=
  Endpoint → Post → Handling ν Reply

/-- Carries a request to an endpoint and the response back. -/
def exchange {ν : Type} (network : Network ν) (body : Octets) : Handling (Endpoint × ν) Octets := do
  let endpoint := (← get).1
  let post ← Handling.ofExcept (endpoint.post body)
  let reply ← onPart Prod.snd (fun s ν => (s.1, ν)) (network endpoint post)
  modify fun s => (s.1.keep reply, s.2)
  Handling.ofExcept (Endpoint.response reply)

/-- The transport to an endpoint over a network. -/
def overNetwork {ν : Type} (network : Network ν) : Transport (Endpoint × ν) where
  send body := Exchange.ofHandling (exchange network body)
  close := modify fun s => (s.1.close, s.2)

end OlapClient.Http
