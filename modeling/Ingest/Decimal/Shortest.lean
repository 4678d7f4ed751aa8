/-!
# Shortest decimal text of a binary number

A finite binary number `m · 2 ^ q` owns an interval of reals: those that are nearer to it than to
its neighbours, and the ends of the interval too when `m` is even.  Its shortest decimal is the
point of the interval that lies on the coarsest grid of powers of ten, and the nearest of those.
-/

namespace Ingest.Decimal

/-- The binary number `significand · 2 ^ exponent`. -/
structure Binary where
  significand : Nat
  exponent : Int
  /-- The neighbour below lies only half as far away as the one above. -/
  atPowerOfTwo : Bool
  deriving DecidableEq, Repr

/-- The magnitude of a finite 64-bit floating-point number, taken apart. -/
def Binary.ofFloat (x : Float) : Binary :=
  let bits := x.toBits.toNat
  let e : Nat := bits / Nat.pow 2 52 % Nat.pow 2 11
  let f : Nat := bits % Nat.pow 2 52
  if e = 0 then ⟨f, -1074, false⟩
  else ⟨Nat.pow 2 52 + f, Int.ofNat e - 1075, f = 0 && 1 < e⟩

/-- The sign bit of a floating-point number. -/
def isNegative (x : Float) : Bool := x.toBits.toNat / Nat.pow 2 63 = 1

/-- The decimal `coefficient · 10 ^ exponent`. -/
structure Scaled where
  coefficient : Nat
  exponent : Int
  deriving DecidableEq, Repr

/-- A point `d` of the grid `10 ^ k` lies in the interval of `x`: all is compared in quarters of
the last binary place, over a common denominator. -/
def Binary.owns (x : Binary) (k : Int) (d : Nat) : Bool :=
  let s := x.exponent - 2
  let scale := Nat.pow 2 s.toNat * Nat.pow 10 (-k).toNat
  let point := d * (Nat.pow 10 k.toNat * Nat.pow 2 (-s).toNat)
  let low := (4 * x.significand - if x.atPowerOfTwo then 1 else 2) * scale
  let high := (4 * x.significand + 2) * scale
  if x.significand % 2 = 0 then low ≤ point && point ≤ high else low < point && point < high

/-- Twice the remainder of the value on the grid `10 ^ k`, against the grid's width. -/
def Binary.compareHalf (x : Binary) (k : Int) : Ordering :=
  let num := x.significand * Nat.pow 2 x.exponent.toNat * Nat.pow 10 (-k).toNat
  let den := Nat.pow 10 k.toNat * Nat.pow 2 (-x.exponent).toNat
  compare (2 * (num % den)) den

/-- The last point of the grid `10 ^ k` that is not above the value. -/
def Binary.floorAt (x : Binary) (k : Int) : Nat :=
  x.significand * Nat.pow 2 x.exponent.toNat * Nat.pow 10 (-k).toNat /
    (Nat.pow 10 k.toNat * Nat.pow 2 (-x.exponent).toNat)

/-- The point of the grid `10 ^ k` that stands for the value, if a neighbour on it does: the
nearer one, and halfway the upper one or the even one. -/
def Binary.pointAt? (x : Binary) (halfUp : Bool) (k : Int) : Option Nat :=
  let d := x.floorAt k
  let below := x.owns k d
  let above := x.owns k (d + 1)
  match below, above with
  | false, false => none
  | true, false => some d
  | false, true => some (d + 1)
  | true, true =>
    match x.compareHalf k with
    | .lt => some d
    | .gt => some (d + 1)
    | .eq => some (if halfUp || d % 2 = 1 then d + 1 else d)

/-- Drop the zeros at the end of a coefficient, at most `fuel` of them. -/
def Scaled.strip : (fuel : Nat) → Scaled → Scaled
  | 0, s => s
  | fuel + 1, s =>
    if s.coefficient % 10 = 0 then strip fuel ⟨s.coefficient / 10, s.exponent + 1⟩ else s

/-- The shortest decimal of a positive number, looked for from the coarsest grid to the finest. -/
def shortest (halfUp : Bool) (x : Binary) : Scaled :=
  let grids : List Int := (List.range 634).map fun i => 309 - Int.ofNat i
  match grids.findSome? fun k => (x.pointAt? halfUp k).map fun d => Scaled.mk d k with
  | some s => s.strip 17
  | none => ⟨0, 0⟩

/-- How the digits of a number are set out. -/
structure Style where
  /-- Of two nearest shortest decimals the upper one is taken, else the even one. -/
  halfUp : Bool
  /-- Whether a number is written without a power of ten, by the place of its point: the number
  of digits before it. -/
  isPositional : Int → Bool

/-- Set out the digits of a decimal. -/
def Scaled.text (style : Style) (s : Scaled) : String :=
  let ds := toString s.coefficient
  let point : Int := ds.length + s.exponent
  if style.isPositional point then
    if 0 ≤ s.exponent then ds ++ String.ofList (List.replicate s.exponent.toNat '0') ++ ".0"
    else if 0 < point then
      String.ofList (ds.toList.take point.toNat) ++ "." ++ String.ofList (ds.toList.drop point.toNat)
    else "0." ++ String.ofList (List.replicate (-point).toNat '0') ++ ds
  else
    let tail := ds.toList.drop 1
    let mantissa := String.ofList (ds.toList.take 1 ++ if tail.isEmpty then [] else '.' :: tail)
    mantissa ++ "e" ++ toString (point - 1)

/-- The text of a finite floating-point number. -/
def floatText (style : Style) (x : Float) : String :=
  let sign := if isNegative x then "-" else ""
  let b := Binary.ofFloat x
  if b.significand = 0 then sign ++ "0.0" else sign ++ (shortest style.halfUp b).text style

end Ingest.Decimal
