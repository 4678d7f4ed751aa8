import Ingest.Text.Cut
import Ingest.Text.Hex
import Ingest.Url.Problem
/-!
# Numeric addresses

Hosts that are given by number: four bytes in decimal, octal or hexadecimal parts, and eight groups
of sixteen bits with the longest run of zeros left out.
-/

namespace Ingest.Url

/-! ## Four bytes -/

/-- The number that digits of a base write; nothing if one is no digit of that base. -/
def readDigits (base : Nat) (cs : List Char) : Option Nat :=
  cs.foldlM (fun n c => do
    let d ← Hex.value? c
    guard (d < base)
    return n * base + d) 0

/-- A part of a numeric address: hexadecimal after `0x`, octal after `0`, else decimal. -/
def numericPart? : List Char → Option Nat
  | [] => none
  | '0' :: 'x' :: rest | '0' :: 'X' :: rest => readDigits 16 rest
  | '0' :: c :: rest => readDigits 8 (c :: rest)
  | cs => readDigits 10 cs

/-- The host is to be read as a number: its last part is one. -/
def endsInNumber (host : List Char) : Bool :=
  let isNumeric (part : List Char) : Bool :=
    (!part.isEmpty && part.all Char.isDigit) || (numericPart? part).isSome
  match (Text.cut '.' host).reverse with
  | [] :: part :: _ => isNumeric part
  | part :: _ => isNumeric part
  | [] => false

/-- Read a numeric address: the last part fills the bytes that the parts before it leave. -/
def readIpv4 (host : List Char) : Except Problem Nat :=
  let parts := match (Text.cut '.' host).reverse with
    | [] :: rest => rest.reverse
    | rest => rest.reverse
  match parts.mapM numericPart? with
  | none => .error .badIpv4
  | some numbers =>
    match numbers.reverse with
    | [] => .error .badIpv4
    | last :: before =>
      let room := Nat.pow 256 (5 - numbers.length)
      if 4 < numbers.length || before.any (255 < ·) || room ≤ last then .error .badIpv4
      else .ok (before.reverse.foldl (fun n byte => n * 256 + byte) 0 * room + last)

/-- The four bytes in decimal. -/
def ipv4Text (n : Nat) : String :=
  s!"{n / 16777216}.{n / 65536 % 256}.{n / 256 % 256}.{n % 256}"

/-! ## Eight groups -/

/-- The last groups as four bytes in decimal, without leading zeros. -/
def embeddedIpv4? (cs : List Char) : Option (List Nat) :=
  let byte (part : List Char) : Option Nat := do
    guard (!part.isEmpty && part.length ≤ 3 && part.all Char.isDigit)
    guard (part.length = 1 || part.head? ≠ some '0')
    let n ← readDigits 10 part
    guard (n ≤ 255)
    return n
  match (Text.cut '.' cs).mapM byte with
  | some [a, b, c, d] => some [a * 256 + b, c * 256 + d]
  | _ => none

/-- Groups with colons between them; the last may be four bytes in decimal. -/
def readGroups? : List (List Char) → Option (List Nat)
  | [] => some []
  | [part] =>
    if part.contains '.' then embeddedIpv4? part
    else do
      guard (!part.isEmpty && part.length ≤ 4)
      return [← readDigits 16 part]
  | part :: rest => do
    guard (!part.isEmpty && part.length ≤ 4)
    let n ← readDigits 16 part
    let ns ← readGroups? rest
    return n :: ns

/-- Split a text at the first double colon. -/
def splitGap : List Char → Option (List Char × List Char)
  | ':' :: ':' :: rest => some ([], rest)
  | c :: rest => (splitGap rest).map fun (before, after) => (c :: before, after)
  | [] => none

/-- The groups of a side of the double colon; an empty side has none. -/
def readSide? (cs : List Char) : Option (List Nat) :=
  if cs.isEmpty then some [] else readGroups? (Text.cut ':' cs)

/-- Read eight groups; a double colon stands for the zeros that are left out. -/
def readIpv6 (cs : List Char) : Except Problem (List Nat) :=
  let groups : Option (List Nat) :=
    match splitGap cs with
    | none => do
      let all ← readGroups? (Text.cut ':' cs)
      guard (all.length = 8)
      return all
    | some (before, after) => do
      guard (!before.contains '.')
      let first ← readSide? before
      let last ← readSide? after
      guard (first.length + last.length ≤ 7)
      return first ++ List.replicate (8 - first.length - last.length) 0 ++ last
  match groups with
  | some all => .ok all
  | none => .error .badIpv6

/-- The start and length of the first longest run of zeros. -/
def longestGap : (index : Nat) → (run : Nat) → (best : Nat × Nat) → List Nat → Nat × Nat
  | _, _, best, [] => best
  | i, run, best, g :: gs =>
    if g = 0 then
      longestGap (i + 1) (run + 1) (if best.2 < run + 1 then (i - run, run + 1) else best) gs
    else longestGap (i + 1) 0 best gs

def groupsText (groups : List Nat) : String :=
  ":".intercalate (groups.map fun g => String.ofList (Hex.ofNat g))

/-- The eight groups; the longest run of two or more zeros is left out. -/
def ipv6Text (groups : List Nat) : String :=
  let (start, length) := longestGap 0 0 (0, 0) groups
  if length < 2 then groupsText groups
  else groupsText (groups.take start) ++ "::" ++ groupsText (groups.drop (start + length))

end Ingest.Url
