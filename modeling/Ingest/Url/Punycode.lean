/-!
# Punycode

A label with characters outside ASCII written in ASCII: the ASCII characters first, then where the
others go, as differences in a positional system whose digit weights adapt to the label.
-/

namespace Ingest.Url.Punycode

def digitChar (d : Nat) : Char := if d < 26 then Char.ofNat (97 + d) else Char.ofNat (22 + d)

/-- The digit of a character of either case. -/
def digit? (c : Char) : Option Nat :=
  let n := c.toNat
  if 97 ≤ n && n ≤ 122 then some (n - 97)
  else if 65 ≤ n && n ≤ 90 then some (n - 65)
  else if 48 ≤ n && n ≤ 57 then some (n - 22)
  else none

/-- The least digit at a place that goes on to the next place. -/
def threshold (k bias : Nat) : Nat :=
  if k ≤ bias then 1 else if bias + 26 ≤ k then 26 else k - bias

theorem threshold_pos (k bias : Nat) : 1 ≤ threshold k bias := by
  unfold threshold
  split
  · omega
  · split <;> omega

theorem threshold_le (k bias : Nat) : threshold k bias ≤ 26 := by
  unfold threshold
  split
  · omega
  · split <;> omega

/-- Divide by 35 until the value is small, counting 36 for each division. -/
def adaptLoop (delta k : Nat) : Nat × Nat :=
  if 455 < delta then adaptLoop (delta / 35) (k + 36) else (delta, k)
termination_by delta
decreasing_by exact Nat.div_lt_self (by omega) (by omega)

/-- The bias after a difference has been written. -/
def adapt (delta points : Nat) (first : Bool) : Nat :=
  let scaled := if first then delta / 700 else delta / 2
  let (rest, k) := adaptLoop (scaled + scaled / points) 0
  k + 36 * rest / (rest + 38)

/-! ## Writing -/

/-- The digits of a difference, from place `k` on. -/
def encodeDigits (bias k q : Nat) : List Char :=
  let t := threshold k bias
  if q < t then [digitChar q]
  else digitChar (t + (q - t) % (36 - t)) :: encodeDigits bias (k + 36) ((q - t) / (36 - t))
termination_by q
decreasing_by
  have := threshold_pos k bias
  have := threshold_le k bias
  calc (q - threshold k bias) / (36 - threshold k bias)
      ≤ q - threshold k bias := Nat.div_le_self _ _
    _ < q := by omega

/-- How far a label has been written. -/
structure Writing where
  out : List Char
  delta : Nat
  bias : Nat
  handled : Nat

/-- Pass a character of the label in the round for the character number `m`. -/
def Writing.pass (basic m : Nat) (w : Writing) (c : Char) : Writing :=
  if c.toNat < m then { w with delta := w.delta + 1 }
  else if c.toNat = m then
    ⟨w.out ++ encodeDigits w.bias 36 w.delta, 0,
      adapt w.delta (w.handled + 1) (w.handled = basic), w.handled + 1⟩
  else w

/-- Rounds for the character numbers outside ASCII in ascending order. -/
def encodeRounds (label : List Char) (basic : Nat) : List Nat → Nat → Writing → List Char
  | [], _, w => w.out
  | m :: rest, n, w =>
    let w := { w with delta := w.delta + (m - n) * (w.handled + 1) }
    let w := label.foldl (Writing.pass basic m) w
    encodeRounds label basic rest (m + 1) { w with delta := w.delta + 1 }

def encode (label : List Char) : List Char :=
  let basic := label.filter (·.toNat < 0x80)
  let others := ((label.map Char.toNat).filter (0x80 ≤ ·)).mergeSort.eraseDups
  let start := if basic.isEmpty then [] else basic ++ ['-']
  encodeRounds label basic.length others 0x80 ⟨start, 0, 72, basic.length⟩

/-! ## Reading -/

/-- Numbers are read as long as they have no more than 32 bits. -/
def limit : Nat := 4294967296

/-- Read the digits of a difference: its value and what follows. -/
def decodeDigits (bias : Nat) : (k weight value : Nat) → List Char → Option (Nat × List Char)
  | _, _, _, [] => none
  | k, weight, value, c :: rest => do
    let d ← digit? c
    let value := value + d * weight
    let t := threshold k bias
    guard (value < limit)
    if d < t then some (value, rest)
    else
      guard (weight * (36 - t) < limit)
      decodeDigits bias (k + 36) (weight * (36 - t)) value rest

/-- Put the characters outside ASCII at their places, at most `fuel` of them. -/
def decodeRounds : (fuel n i bias : Nat) → (out : List Char) → List Char → Option (List Char)
  | _, _, _, _, out, [] => some out
  | 0, _, _, _, _, _ => none
  | fuel + 1, n, i, bias, out, cs => do
    let (j, rest) ← decodeDigits bias 36 1 i cs
    let size := out.length + 1
    let n := n + j / size
    guard n.isValidChar
    let place := j % size
    decodeRounds fuel n (place + 1) (adapt (j - i) size (i = 0))
      (out.take place ++ Char.ofNat n :: out.drop place) rest

/-- Read a label written in ASCII; each character takes up a digit at least.  A hyphen sets off the
ASCII characters and is not there without them. -/
def decode? (cs : List Char) : Option (List Char) :=
  let fromEnd := cs.reverse
  let digits := (fromEnd.takeWhile (· ≠ '-')).reverse
  let basic := ((fromEnd.dropWhile (· ≠ '-')).drop 1).reverse
  if basic.isEmpty && cs.contains '-' || !basic.all (·.toNat < 0x80) then none
  else decodeRounds digits.length 0x80 0 72 basic digits

end Ingest.Url.Punycode
