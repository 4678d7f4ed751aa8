/-!
# UTF-8

Text as bytes.  Reading is strict, and `decodeLossy` puts the replacement character in place of
each maximal ill-formed part.
-/

namespace Ingest

/-- Bytes of a file, a message body or an encoded text. -/
abbrev Bytes := List UInt8

namespace Utf8

def encode (s : String) : Bytes := s.toList.flatMap String.utf8EncodeChar

/-- Read UTF-8; ill-formed bytes are refused. -/
def decode? (bytes : Bytes) : Option String := String.fromUTF8? ⟨bytes.toArray⟩

/-- How many further bytes a lead byte asks for, with the range of the first of them. -/
def expected (lead : Nat) : Option (Nat × Nat × Nat) :=
  if 0xC2 ≤ lead && lead ≤ 0xDF then some (1, 0x80, 0xBF)
  else if lead == 0xE0 then some (2, 0xA0, 0xBF)
  else if lead == 0xED then some (2, 0x80, 0x9F)
  else if 0xE1 ≤ lead && lead ≤ 0xEF then some (2, 0x80, 0xBF)
  else if lead == 0xF0 then some (3, 0x90, 0xBF)
  else if 0xF1 ≤ lead && lead ≤ 0xF3 then some (3, 0x80, 0xBF)
  else if lead == 0xF4 then some (3, 0x80, 0x8F)
  else none

/-- A character under way: its value so far, the bytes it still needs and the range of the next. -/
structure Pending where
  value : Nat
  missing : Nat
  low : Nat
  high : Nat

/-- A byte that starts a character, or the replacement character if none can start with it. -/
def start (b : Nat) : List Char × Option Pending :=
  if b < 0x80 then ([Char.ofNat b], none)
  else match expected b with
    | none => (['\ufffd'], none)
    | some (n, low, high) =>
      let bits := if n == 1 then b - 0xC0 else if n == 2 then b - 0xE0 else b - 0xF0
      ([], some ⟨bits, n, low, high⟩)

/-- Read bytes one by one; an interrupted character is replaced. -/
def decodeFrom : Option Pending → Bytes → List Char
  | none, [] => []
  | some _, [] => ['\ufffd']
  | none, b :: rest =>
    let (out, pending) := start b.toNat
    out ++ decodeFrom pending rest
  | some p, b :: rest =>
    let n := b.toNat
    if p.low ≤ n && n ≤ p.high then
      let value := p.value * 64 + (n - 0x80)
      if p.missing == 1 then Char.ofNat value :: decodeFrom none rest
      else decodeFrom (some ⟨value, p.missing - 1, 0x80, 0xBF⟩) rest
    else
      let (out, pending) := start n
      '\ufffd' :: out ++ decodeFrom pending rest

/-- Read UTF-8, replacing what is ill-formed. -/
def decodeLossy (bytes : Bytes) : String := String.ofList (decodeFrom none bytes)

end Utf8

end Ingest
