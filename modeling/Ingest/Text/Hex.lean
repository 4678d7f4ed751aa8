/-!
# Hexadecimal digits

Digits of base sixteen: read in either case, written in upper or lower case.
-/

namespace Ingest.Hex

/-- The value of a hexadecimal digit of either case. -/
def value? (c : Char) : Option Nat :=
  if '0' ≤ c && c ≤ '9' then some (c.toNat - 48)
  else if 'A' ≤ c && c ≤ 'F' then some (c.toNat - 55)
  else if 'a' ≤ c && c ≤ 'f' then some (c.toNat - 87)
  else none

/-- A digit below sixteen, in upper case. -/
def upper (n : Nat) : Char := if n < 10 then Char.ofNat (48 + n) else Char.ofNat (55 + n)

/-- A digit below sixteen, in lower case. -/
def lower (n : Nat) : Char := if n < 10 then Char.ofNat (48 + n) else Char.ofNat (87 + n)

theorem value?_upper {n : Nat} (h : n < 16) : value? (upper n) = some n := by
  have hall : ∀ k < 16, value? (upper k) = some k := by decide
  exact hall n h

theorem value?_lower {n : Nat} (h : n < 16) : value? (lower n) = some n := by
  have hall : ∀ k < 16, value? (lower k) = some k := by decide
  exact hall n h

/-- A number in lower case, without leading zeros. -/
def ofNat (n : Nat) : List Char := Nat.toDigits 16 n

end Ingest.Hex
