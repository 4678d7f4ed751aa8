import Ingest.Url.Reader
/-!
# Addresses in messages

A request names its address by a server, perhaps with a user, a path and a query.  Not every URL
can be written so: some hosts hold characters that no message may hold, and some URLs name no
server.
-/

namespace Ingest.Http

/-! ## Servers -/

/-- A character that may stand where a message names a server. -/
def isAuthorityChar (c : Char) : Bool := c.isAlphanum || "!$%&'()*+,-.:;=@[]_~".toList.contains c

/-- What has been seen where a message names a server: the colons and whether there was a percent
sign since the last user or number between brackets, and brackets. -/
structure AuthorityScan where
  colons : Nat
  percent : Bool
  opened : Bool
  closed : Bool
  deriving DecidableEq, Repr

/-- The number of colons that may follow each other without a bracket or an at sign. -/
def maxColons : Nat := 8

/-- Look at a character where a message names a server. -/
def AuthorityScan.step (s : AuthorityScan) (c : Char) : Option AuthorityScan :=
  if !isAuthorityChar c then none
  else if c = ':' then
    if maxColons ≤ s.colons then none else some { s with colons := s.colons + 1 }
  else if c = '[' then if s.percent || s.opened then none else some { s with opened := true }
  else if c = ']' then
    if !s.opened || s.closed then none else some ⟨0, false, s.opened, true⟩
  else if c = '@' then some { s with colons := 0, percent := false }
  else if c = '%' then some { s with percent := true }
  else some s

/-- The text can stand where a message names a server: at most one colon sets off a port, brackets
are closed, and only users are percent-encoded. -/
def namesServer (cs : List Char) : Bool :=
  match cs.foldlM AuthorityScan.step ⟨0, false, false, false⟩ with
  | some s =>
    !cs.isEmpty && s.opened = s.closed && s.colons ≤ 1 && !s.percent && cs.getLast? ≠ some '@'
  | none => false

/-! ## Addresses -/

/-- The length that an address may have, in bytes. -/
def maxAddress : Nat := 65534

def maxScheme : Nat := 64

/-- A URL as a message names it: without its fragment, and from the root on.  A URL that names no
server must look like one in full. -/
def addressOf? (u : Url) : Option Url :=
  if maxAddress < (Utf8.encode u.text).length then none
  else match u.authority with
    | some a =>
      if namesServer (a.userText ++ a.hostText).toList && u.scheme.length ≤ maxScheme then
        some { u.withoutFragment with
          path := if u.path.text.isEmpty then .segments [""] else u.path }
      else none
    | none => if namesServer u.text.toList then some u else none

end Ingest.Http
