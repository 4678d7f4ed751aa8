import Ingest.Http.Address
import Ingest.Http.Failure
import Ingest.Text.Base64
import Ingest.World
/-!
# HTTP clients

A client sends requests for web addresses, through a proxy if there is one, and goes where a
redirecting answer sends it.
-/

namespace Ingest.Http

/-! ## Requests -/

structure Request where
  method : String
  url : Url
  headers : Headers
  body : Body
  deriving DecidableEq, Repr

/-- The header by which a user is known. -/
def basicAuth (login : String) (password : Option String) : String :=
  "Basic " ++ Base64.encodeText (login ++ ":" ++ password.getD "")

namespace Request

/-- A request without a body.  A user in the address becomes a header, which stays beside any that
is added. -/
def of (method : String) (url : Url) : Request :=
  let headers : Headers := [("accept", "application/json"), ("accept-charset", "UTF-8")]
  match url.user? with
  | some (login, password) =>
    ⟨method, url.withoutUser, headers.add "authorization" (basicAuth login password), .empty⟩
  | none => ⟨method, url, headers, .empty⟩

def withHeader (r : Request) (name value : String) : Request :=
  { r with headers := r.headers.add name value }

/-- Say who asks. -/
def withAuth (r : Request) (login password : String) : Request :=
  r.withHeader "authorization" (basicAuth login (some password))

def withJson (r : Request) (text : String) : Request :=
  { r.withHeader "content-type" "application/json" with body := .text text }

/-- Give the request form-encoded pairs as its body. -/
def withForm (r : Request) (pairs : List (String × String)) : Request :=
  { r.withHeader "content-type" "application/x-www-form-urlencoded" with
    body := .text (Form.encode pairs) }

def withParts (r : Request) (parts : List Part) : Request :=
  { r.withHeader "content-type" "multipart/form-data" with body := .parts parts }

end Request

def Part.text (name content : String) : Part :=
  ⟨[s!"Content-Disposition: form-data; name=\"{name}\""], Utf8.encode content⟩

/-- A character of a file name in a header; quotes, backslashes and line breaks are marked. -/
def fileNameChar (c : Char) : List Char :=
  if c = '\\' || c = '"' || c = '\r' || c = '\n' then ['\\', c] else [c]

def Part.file (name fileName : String) (content : Bytes) : Part :=
  let written := String.ofList (fileName.toList.flatMap fileNameChar)
  ⟨[s!"Content-Disposition: form-data; name=\"{name}\"; filename=\"{written}\""], content⟩

/-! ## Answers -/

/-- The answer to a request, as far as callers look at it. -/
structure Answer where
  status : Nat
  body : String
  location : Option String
  deriving DecidableEq, Repr

/-- A header value without the spaces at its ends. -/
def headerValue (bytes : Bytes) : Bytes :=
  let isEdge (b : UInt8) : Bool := b == 0x20 || b == 0x09
  ((bytes.dropWhile isEdge).reverse.dropWhile isEdge).reverse

/-- A header value as text, if all of it is visible ASCII. -/
def headerText? (bytes : Bytes) : Option String :=
  let value := headerValue bytes
  if value.all fun b => b == 0x09 || (0x20 ≤ b && b < 0x7F) then
    some (String.ofList (value.map fun b => Char.ofNat b.toNat))
  else none

def hasNoBody (status : Nat) : Bool := status = 101 || status = 204 || status = 304

/-- The response is an answer: its status is written in three digits and is not one that only
announces an answer, and its header holds no controls. -/
def Response.isAnswer (r : Response) : Bool :=
  (r.status = 101 || (200 ≤ r.status && r.status < 1000)) &&
    (r.location.getD []).all fun b => b == 0x09 || (0x20 ≤ b && b ≠ 0x7F)

/-- Read a response; its body must be whole. -/
def Response.answer (r : Response) : Except Failure Answer :=
  if hasNoBody r.status then .ok ⟨r.status, "", r.location.bind headerText?⟩
  else if !r.isWhole then .error .cutBody
  else .ok ⟨r.status, r.body.text, r.location.bind headerText?⟩

/-! ## Clients -/

/-- A client, perhaps with a proxy between it and the servers. -/
structure Client where
  proxy : Option Proxy
  deriving DecidableEq, Repr

def serverOf (u : Url) : Server := ⟨u.hostName, u.portNumber.getD 0⟩

/-- The proxy at an address, known to it by the user that the address names. -/
def proxyOf (u : Url) : Proxy :=
  let plain (s : String) : String := Utf8.decodeLossy (Percent.decode s.toList)
  let user := u.authority.filter (!·.userText.isEmpty)
  ⟨serverOf u, user.map fun a => basicAuth (plain a.username) (a.password.map plain)⟩

/-- A client with the given proxy; the proxy must be the host of a web address.  One that no
message can name is not used. -/
def Client.build (proxy : Option String) : Except Url.Problem Client :=
  match proxy with
  | none => .ok ⟨none⟩
  | some text => (Url.ofText ("http://" ++ text)).map fun url => ⟨(addressOf? url).map proxyOf⟩

/-- Requests to the machine itself do not go through a proxy. -/
def isLocal (host : String) : Bool :=
  host = "localhost" || host.endsWith ".localhost" || host = "127.0.0.1"

namespace Client

/-- The connection for a URL, and how the target is written there: a proxy that passes a message on
is told the whole address. -/
def route (c : Client) (u : Url) : Connection × String :=
  let isSecure : Bool := u.scheme = "https"
  match c.proxy with
  | some proxy =>
    if isLocal u.hostName then (.direct (serverOf u) isSecure, u.target)
    else if isSecure then (.tunnelled proxy (serverOf u), u.target)
    else (.relayed proxy, u.withoutFragment.text)
  | none => (.direct (serverOf u) isSecure, u.target)

def message (c : Client) (r : Request) : Connection × Message :=
  let (connection, target) := c.route r.url
  (connection, ⟨r.method, target,
    r.headers.add "host" ((r.url.authority.map (·.hostText)).getD ""), r.body⟩)

/-! ## Redirection -/

def withoutBody (r : Request) (method : String) : Request :=
  ⟨method, r.url, r.headers.remove "content-type", .empty⟩

/-- The request that goes on to another place, if an answer of this status sends it there.  Parts
are not sent twice. -/
def redirected? (r : Request) (status : Nat) : Option Request :=
  if status = 301 || status = 302 then
    some (if r.method = "POST" then withoutBody r "GET" else r)
  else if status = 303 then some (withoutBody r "GET")
  else if status = 307 || status = 308 then
    match r.body with
    | .parts _ => none
    | .bytes _ => some r
  else none

/-- The place that a response sends to, as seen from a URL, if a request can name it. -/
def destination? (base : Url) (r : Response) : Option Url := do
  let text ← r.location.bind fun bytes => Utf8.decode? (headerValue bytes)
  let url ← (base.resolve text).toOption
  addressOf? url

/-- A request that comes from another place: a user is only made known to the same server. -/
def comingFrom (previous : Url) (r : Request) : Request :=
  if serverOf previous = serverOf r.url then r
  else { r with headers := r.headers.remove "authorization" }

/-- How often a request may be sent on. -/
def maxRedirects : Nat := 10

/-- Send a request from a place, and send it on as long as the answers say so.  A request without
an answer is reported under the address that was asked for first. -/
def sendFrom (c : Client) (first : Url) : (redirects : Nat) → (previous : Url) → Request →
    WorldDialogue (Except Failure Answer)
  | redirects, previous, r =>
    let (connection, m) := c.message (comingFrom previous r)
    .ask (.exchange connection m) fun
      | none => .done (.error (.unanswered first.text))
      | some response =>
        if !response.isAnswer then .done (.error (.unanswered first.text))
        else match redirected? r response.status, destination? r.url response with
          | some next, some u =>
            match redirects with
            | 0 => .done (.error (.redirectedTooOften r.url.text))
            | redirects + 1 =>
              if u.isHttp then sendFrom c first redirects r.url { next with url := u }
              else .done (.error (.notSendable u.text))
          | _, _ => .done response.answer

def send (c : Client) (r : Request) : WorldDialogue (Except Failure Answer) :=
  match if r.url.isHttp then addressOf? r.url else none with
  | some address => sendFrom c r.url maxRedirects address { r with url := address }
  | none => .done (.error (.notSendable r.url.text))

end Client

end Ingest.Http
