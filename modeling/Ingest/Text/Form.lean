import Ingest.Text.Cut
import Ingest.Text.Percent
/-!
# Form-encoded pairs

Names and values as `application/x-www-form-urlencoded` text, and back: a space is written as a
plus sign, and everything but letters, digits and `*-._` by its bytes.
-/

namespace Ingest.Form

/-- Characters that stand for themselves. -/
def isPlain (c : Char) : Bool :=
  c.isAlphanum || c == '*' || c == '-' || c == '.' || c == '_'

/-- One character of a name or a value. -/
def encodeChar (c : Char) : List Char :=
  if c = ' ' then ['+'] else Percent.encodeChar (fun c => !isPlain c) c

def encodeText (s : String) : List Char := s.toList.flatMap encodeChar

/-- A name, an equals sign and a value. -/
def encodePair (pair : String × String) : List Char :=
  encodeText pair.1 ++ '=' :: encodeText pair.2

def encode (pairs : List (String × String)) : String :=
  String.ofList (['&'].intercalate (pairs.map encodePair))

/-- Read a name or a value. -/
def decodeText (cs : List Char) : String :=
  Utf8.decodeLossy (Percent.decode (cs.map fun c => if c = '+' then ' ' else c))

/-- Read one pair: the name ends at the first equals sign. -/
def decodePair (cs : List Char) : String × String :=
  (decodeText (cs.takeWhile (· ≠ '=')), decodeText ((cs.dropWhile (· ≠ '=')).drop 1))

/-- Read the pairs of a form-encoded text; empty parts hold no pair. -/
def decode (s : String) : List (String × String) :=
  ((Text.cut '&' s.toList).filter (!·.isEmpty)).map decodePair

/-- Add pairs after an existing query. -/
def append (query : Option String) (pairs : List (String × String)) : String :=
  match query with
  | none => encode pairs
  | some q => if q.isEmpty then encode pairs else q ++ "&" ++ encode pairs

end Ingest.Form
