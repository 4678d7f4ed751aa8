import Ingest.Text.Cut
import Ingest.Text.Normal
import Ingest.Url.Direction
import Ingest.Url.DomainTable
import Ingest.Url.Joining
import Ingest.Url.Punycode
/-!
# Domain names

A domain name in its ASCII form: every character is replaced by the one it stands for, the text is
composed, and labels with other characters than ASCII are written in Punycode.  Names that could be
mistaken for others are refused.
-/

namespace Ingest.Url.Domain

/-! ## Characters -/

/-- What the characters of a name stand for, composed; nothing if one may not stand in a name. -/
def settle (cs : List Char) : Option (List Char) :=
  (cs.mapM mapChar).map fun parts => Text.composed parts.flatten

/-- ASCII characters that no domain name holds. -/
def isForbidden (c : Char) : Bool :=
  c.toNat ≤ 0x20 || c.toNat = 0x7F || "%#/:<>?@[\\]^|".toList.contains c

def isAscii (cs : List Char) : Bool := cs.all (·.toNat < 0x80)

/-! ## Labels -/

/-- A label as it is read, and in its ASCII form. -/
structure Label where
  text : List Char
  ascii : List Char
  deriving DecidableEq, Repr

/-- The mark of a label that is written in Punycode. -/
def encodingMark : List Char := "xn--".toList

/-- How long a label may be that is not in ASCII. -/
def maxLength : Nat := 1000

/-- How long the Punycode of a label may be. -/
def maxEncoded : Nat := 2000

/-- The label starts with a character of its own, and its joiners are in place. -/
def isWellFormed (text : List Char) : Bool :=
  !(text.head?.map Text.isMark).getD false && joinersStand [] text && text.length ≤ maxLength

/-- Read a label that is written in Punycode.  It must say something, and nothing that could be said
without Punycode. -/
def Label.ofEncoded? (code : List Char) : Option Label := do
  guard (isAscii code && code.getLast?.any (· ≠ '-') && code.length ≤ maxEncoded)
  let text ← Punycode.decode? code
  guard (settle text = some text && isWellFormed text)
  return ⟨text, encodingMark ++ code⟩

def Label.read? (label : List Char) : Option Label :=
  if encodingMark.isPrefixOf label then Label.ofEncoded? (label.drop encodingMark.length)
  else if isAscii label then some ⟨label, label⟩
  else if isWellFormed label then some ⟨label, encodingMark ++ Punycode.encode label⟩
  else none

/-! ## Names -/

def toAscii (s : String) : Option (List Char) := do
  let settled ← settle s.toList
  let labels ← (Text.cut '.' settled).mapM Label.read?
  guard (areReadOneWay (labels.map (·.text)))
  let name := Text.glue '.' (labels.map (·.ascii))
  guard (!name.any isForbidden)
  return name

end Ingest.Url.Domain
