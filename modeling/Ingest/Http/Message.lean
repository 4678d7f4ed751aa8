import Ingest.Text.Utf16
/-!
# HTTP messages

What goes to a server and what comes back, as far as a client looks at it.
-/

namespace Ingest.Http

/-! ## Connections -/

structure Server where
  host : String
  port : Nat
  deriving DecidableEq, Repr

/-- A proxy, with the header by which it knows who asks. -/
structure Proxy where
  server : Server
  authorization : Option String
  deriving DecidableEq, Repr

/-- The way of a message to the server that it is meant for. -/
inductive Connection where
  | direct (server : Server) (isSecure : Bool)
  /-- The proxy reads the message and passes it on. -/
  | relayed (proxy : Proxy)
  /-- The proxy opens a tunnel to the server, and the message goes through it as a secure one. -/
  | tunnelled (proxy : Proxy) (server : Server)
  deriving DecidableEq, Repr

/-! ## Messages -/

/-- A part of a body, with its header lines. -/
structure Part where
  headers : List String
  content : Bytes
  deriving DecidableEq, Repr

inductive Body where
  | bytes (content : Bytes)
  | parts (list : List Part)
  deriving DecidableEq, Repr

def Body.empty : Body := .bytes []

def Body.text (s : String) : Body := .bytes (Utf8.encode s)

/-- Header lines by their names in lower case; there may be several of one name. -/
abbrev Headers := List (String × String)

namespace Headers

/-- Add a header line behind those that are there. -/
def add (headers : Headers) (name value : String) : Headers := headers ++ [(name, value)]

/-- Leave out the header lines of a name. -/
def remove (headers : Headers) (name : String) : Headers := headers.filter (·.1 ≠ name)

/-- What stands under a name, in the order of the lines. -/
def values (headers : Headers) (name : String) : List String :=
  (headers.filter (·.1 = name)).map (·.2)

end Headers

structure Message where
  method : String
  target : String
  headers : Headers
  body : Body
  deriving DecidableEq, Repr

/-! ## Responses -/

/-- How the bytes of a body are to be read, as the response says. -/
inductive Encoding where
  | utf8
  | utf16 (bigEndian : Bool)
  /-- Any other encoding, by the text that the bytes stand for in it. -/
  | other (text : String)
  deriving DecidableEq, Repr

/-- The body of a response. -/
structure Content where
  bytes : Bytes
  encoding : Encoding
  deriving DecidableEq, Repr

/-- Bytes are UTF-8 if nothing else is said. -/
instance : Coe Bytes Content := ⟨fun bytes => ⟨bytes, .utf8⟩⟩

/-- The text of a body.  A mark at its start says more about the encoding than the response, and is
left out. -/
def Content.text (content : Content) : String :=
  match content.bytes with
  | 0xEF :: 0xBB :: 0xBF :: rest => Utf8.decodeLossy rest
  | 0xFF :: 0xFE :: rest => Utf16.decodeLossy false rest
  | 0xFE :: 0xFF :: rest => Utf16.decodeLossy true rest
  | bytes =>
    match content.encoding with
    | .utf8 => Utf8.decodeLossy bytes
    | .utf16 bigEndian => Utf16.decodeLossy bigEndian bytes
    | .other text => text

/-- What a server answers.  A body that is not whole has broken off. -/
structure Response where
  status : Nat
  location : Option Bytes
  body : Content
  isWhole : Bool
  deriving DecidableEq, Repr

end Ingest.Http
