import Ingest.Text.Utf8
/-!
# UTF-16

Text as units of two bytes.  Reading puts the replacement character in place of a unit that is half
of a pair without its other half, and of a byte that is left over at the end.
-/

namespace Ingest.Utf16

/-- The units of bytes, and whether a byte is left over. -/
def units (bigEndian : Bool) : Bytes → List Nat × Bool
  | [] => ([], false)
  | [_] => ([], true)
  | a :: b :: rest =>
    let unit := if bigEndian then a.toNat * 256 + b.toNat else b.toNat * 256 + a.toNat
    let (others, leftOver) := units bigEndian rest
    (unit :: others, leftOver)

/-- The first half of a pair. -/
def isHigh (unit : Nat) : Bool := 0xD800 ≤ unit && unit < 0xDC00

/-- The second half of a pair. -/
def isLow (unit : Nat) : Bool := 0xDC00 ≤ unit && unit < 0xE000

def single (unit : Nat) : Char :=
  if isHigh unit || isLow unit then '\ufffd' else Char.ofNat unit

/-- Read units; half a pair and half a unit at the very end are replaced together. -/
def decodeUnits (leftOver : Bool) : List Nat → List Char
  | [] => if leftOver then ['\ufffd'] else []
  | [unit] => if isHigh unit || !leftOver then [single unit] else [single unit, '\ufffd']
  | unit :: next :: rest =>
    if isHigh unit && isLow next then
      Char.ofNat (0x10000 + (unit - 0xD800) * 0x400 + (next - 0xDC00)) :: decodeUnits leftOver rest
    else single unit :: decodeUnits leftOver (next :: rest)

/-- Read UTF-16, replacing what is ill-formed. -/
def decodeLossy (bigEndian : Bool) (bytes : Bytes) : String :=
  let (units, leftOver) := units bigEndian bytes
  String.ofList (decodeUnits leftOver units)

end Ingest.Utf16
