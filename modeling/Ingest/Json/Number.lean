import Ingest.Decimal.Shortest
import Ingest.Json.Token
/-!
# JSON numbers

A number is an integer of 64 bits where it can be, and a floating-point number otherwise.  The
floating-point value is the significand, cut to 64 bits, scaled by a power of ten.
-/

namespace Ingest.Json

/-- The value of a number. -/
inductive Number where
  | integer (i : Int)
  | float (x : Float)

def maxSignificand : Nat := 18446744073709551615

/-- Append digits to a significand while it fits, and count the digits that are left. -/
def absorb (significand : Nat) : List Nat → Nat × Nat
  | [] => (significand, 0)
  | d :: ds =>
    if significand * 10 + d ≤ maxSignificand then absorb (significand * 10 + d) ds
    else (significand, ds.length + 1)

def powerOfTen (e : Nat) : Float := Float.ofScientific 1 false e

/-- The largest power of ten that is used in one step. -/
def largestPower : Nat := 308

/-- Divide by a power of ten, in several steps if it is too large for one. -/
def divideByPower (x : Float) (e : Nat) : Float :=
  if e ≤ largestPower then x / powerOfTen e
  else if x == 0.0 then x
  else divideByPower (x / powerOfTen largestPower) (e - largestPower)
termination_by e
decreasing_by simp only [largestPower] at *; omega

/-- The significand times a power of ten. -/
def scale (significand : Nat) (exponent : Int) : Except Cause Float :=
  let x := (UInt64.ofNat significand).toFloat
  if exponent < 0 then .ok (divideByPower x (-exponent).toNat)
  else if exponent.toNat ≤ largestPower then
    let y := x * powerOfTen exponent.toNat
    if y.isInf then .error .numberOutOfRange else .ok y
  else if x == 0.0 then .ok x
  else .error .numberOutOfRange

def digitsValue (ds : List Nat) : Nat := ds.foldl (fun n d => n * 10 + d) 0

/-- The largest power of ten that a number may be written with. -/
def maxExponent : Nat := 2147483647

def Numeral.float (n : Numeral) : Except Cause Float := do
  let (whole, dropped) := absorb 0 n.whole
  let fraction := n.fraction.getD []
  let (significand, left) := absorb whole fraction
  let point : Int := dropped - (fraction.length - left : Nat)
  let magnitude ← match n.exponent with
    | none => scale significand point
    | some (negative, ds) =>
      let e := digitsValue ds
      if maxExponent < e then
        if significand ≠ 0 && !negative then .error .numberOutOfRange else .ok 0.0
      else scale significand (if negative then point - e else point + e)
  return if n.negative then -magnitude else magnitude

def Numeral.value (n : Numeral) : Except Cause Number :=
  let (significand, dropped) := absorb 0 n.whole
  if n.fraction.isSome || n.exponent.isSome || dropped ≠ 0 then n.float.map .float
  else if !n.negative then .ok (.integer significand)
  else if significand = 0 || 9223372036854775808 < significand then n.float.map .float
  else .ok (.integer (-significand))

/-- Numbers are written without a power of ten from five zeros after the point up to sixteen
digits before it. -/
def Number.style : Decimal.Style := ⟨false, fun point => -5 < point && point ≤ 16⟩

def Number.text : Number → String
  | .integer i => toString i
  | .float x => Decimal.floatText style x

def Number.found : Number → Found
  | .integer i => .integer i
  | .float x => .float (Decimal.floatText style x)

end Ingest.Json
