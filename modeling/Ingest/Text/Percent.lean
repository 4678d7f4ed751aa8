import Ingest.Text.Hex
import Ingest.Text.Utf8
/-!
# Percent-encoding

A byte is written as `%` and two hexadecimal digits.  A class of characters says what is encoded;
characters outside ASCII always are, byte by byte.
-/

namespace Ingest.Percent

/-- The three characters that stand for a byte. -/
def encodeByte (b : UInt8) : List Char :=
  ['%', Hex.upper (b.toNat / 16), Hex.upper (b.toNat % 16)]

/-- Controls and everything outside ASCII. -/
def control (c : Char) : Bool := c.toNat < 0x20 || 0x7F ≤ c.toNat

/-- A character, encoded if it is in the class or outside ASCII. -/
def encodeChar (escaped : Char → Bool) (c : Char) : List Char :=
  if escaped c || 0x80 ≤ c.toNat then (String.utf8EncodeChar c).flatMap encodeByte else [c]

def encode (escaped : Char → Bool) (s : List Char) : List Char := s.flatMap (encodeChar escaped)

/-- Replace each `%` that two hexadecimal digits follow by its byte; all else stays. -/
def decode : List Char → Bytes
  | '%' :: h :: l :: rest =>
    match Hex.value? h, Hex.value? l with
    | some a, some b => UInt8.ofNat (a * 16 + b) :: decode rest
    | _, _ => String.utf8EncodeChar '%' ++ decode (h :: l :: rest)
  | c :: rest => String.utf8EncodeChar c ++ decode rest
  | [] => []

end Ingest.Percent
