import Ingest.Text.Form
import Ingest.Url.Host
/-!
# URLs

A URL taken apart, its text, and the parts that an HTTP client looks at.
-/

namespace Ingest

namespace Url

/-- Who is asked: a user, perhaps, and a host with its port if it is not the usual one. -/
structure Authority where
  username : String
  password : Option String
  host : Host
  port : Option Nat
  deriving DecidableEq, Repr

/-- The path of a URL: parts below the root, already encoded, perhaps set off from the scheme by a
dot, or a text of any form. -/
inductive Path where
  | segments (parts : List String)
  | setOff (parts : List String)
  | plain (text : String)
  deriving DecidableEq, Repr

namespace Path

/-- A path behind an authority, or right behind the scheme.  There one that would look like an
authority is set off. -/
def ofParts (behindAuthority : Bool) (parts : List String) : Path :=
  match parts with
  | "" :: _ :: _ => if behindAuthority then .segments parts else .setOff parts
  | _ => .segments parts

def parts : Path → List String
  | .segments parts | .setOff parts => parts
  | .plain _ => []

def mapParts (f : List String → List String) : Path → Path
  | .segments parts => .segments (f parts)
  | .setOff parts => .setOff (f parts)
  | .plain text => .plain text

def partsText (parts : List String) : String := String.join (parts.map ("/" ++ ·))

def text : Path → String
  | .segments parts => partsText parts
  | .setOff parts => "/." ++ partsText parts
  | .plain text => text

end Path

end Url

structure Url where
  scheme : String
  authority : Option Url.Authority
  path : Url.Path
  query : Option String
  fragment : Option String
  deriving DecidableEq, Repr

namespace Url

/-! ## Schemes -/

/-- The schemes of web addresses and files, with their usual ports. -/
def specialSchemes : List (String × Option Nat) :=
  [("http", some 80), ("https", some 443), ("ws", some 80), ("wss", some 443), ("ftp", some 21),
    ("file", none)]

/-- The scheme is one of web addresses or files. -/
def isSpecial (scheme : String) : Bool := (specialSchemes.lookup scheme).isSome

def defaultPort? (scheme : String) : Option Nat := (specialSchemes.lookup scheme).join

def isHttp (u : Url) : Bool := u.scheme = "http" || u.scheme = "https"

/-! ## Text -/

/-- The user and an at sign, if there is a user. -/
def Authority.userText (a : Authority) : String :=
  match a.password with
  | none => if a.username.isEmpty then "" else a.username ++ "@"
  | some password => a.username ++ ":" ++ password ++ "@"

def Authority.hostText (a : Authority) : String :=
  match a.port with
  | none => a.host.text
  | some port => a.host.text ++ ":" ++ toString port

/-- The text between the scheme and the path. -/
def authorityText (u : Url) : String :=
  match u.authority with
  | some a => "//" ++ a.userText ++ a.hostText
  | none => if u.scheme = "file" then "//" else ""

/-- A text behind a mark, if there is one. -/
def marked (mark : String) : Option String → String
  | none => ""
  | some text => mark ++ text

/-- The path and the query: what a request names of the URL. -/
def target (u : Url) : String := u.path.text ++ marked "?" u.query

def text (u : Url) : String :=
  u.scheme ++ ":" ++ u.authorityText ++ u.target ++ marked "#" u.fragment

/-! ## Who is asked -/

/-- The host of a URL, as text. -/
def hostName (u : Url) : String := (u.authority.map (·.host.text)).getD ""

/-- The port of a URL: the one it names, or the usual one of its scheme. -/
def portNumber (u : Url) : Option Nat := (u.authority.bind (·.port)) <|> defaultPort? u.scheme

/-- The user of a URL, with the percent-encoding undone.  A password that is no text counts as
none, and a name that is no text as no user. -/
def user? (u : Url) : Option (String × Option String) := do
  let a ← u.authority
  let username ← Utf8.decode? (Percent.decode a.username.toList)
  let password := a.password.bind fun p => Utf8.decode? (Percent.decode p.toList)
  guard (!username.isEmpty || password.isSome)
  return (username, password)

def withoutUser (u : Url) : Url :=
  { u with authority := u.authority.map fun a => { a with username := "", password := none } }

def withoutFragment (u : Url) : Url := { u with fragment := none }

def withPairs (u : Url) (pairs : List (String × String)) : Url :=
  { u with query := some (Form.append u.query pairs) }

end Url

end Ingest
