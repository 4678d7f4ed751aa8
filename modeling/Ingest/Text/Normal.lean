import Ingest.Text.Composition
import Ingest.Text.Mark
/-!
# The composed form of text

Text that looks the same can be written in several ways: a letter with marks as one character or as
several, and marks at different places in any order.  The composed form is the same for all of
them: every character is taken apart, the marks are put in order, and what can be composed is.
-/

namespace Ingest.Text

/-! ## Taking apart -/

/-- Take a character apart, at most `fuel` times. -/
def takeApart : (fuel : Nat) → Char → List Char
  | 0, c => [c]
  | fuel + 1, c =>
    match decompose? c with
    | some (a, b) => takeApart fuel a ++ [b]
    | none => [c]

/-- No character is composed in more steps. -/
def deepest : Nat := 4

/-- The parts of a character; ASCII has none. -/
def partsOf (c : Char) : List Char := if c.toNat < 0x80 then [c] else takeApart deepest c

/-! ## Order -/

/-- Put a mark behind marks in reverse order, before all that have a greater class. -/
def placeMark (c : Char) : List Char → List Char
  | [] => [c]
  | d :: rest =>
    if combiningClass c ≠ 0 && combiningClass c < combiningClass d then d :: placeMark c rest
    else c :: d :: rest

/-- Characters with their marks in the order of the combining classes. -/
def orderMarks (cs : List Char) : List Char :=
  (cs.foldl (fun before c => placeMark c before) []).reverse

/-! ## Composing -/

/-- Compose ordered characters behind one that others can be composed with, if there is one, and
the marks that stay behind it.  A mark reaches the character past marks of lesser classes. -/
def composeBehind (start : Option Char) (marks : List Char) : List Char → List Char
  | [] => start.toList ++ marks
  | c :: rest =>
    let lets (d : Char) : Bool := combiningClass d < combiningClass c
    let reached := if (marks.getLast?.map lets).getD true then start else none
    match reached.bind (compose? · c) with
    | some t => composeBehind (some t) marks rest
    | none =>
      if combiningClass c = 0 then start.toList ++ marks ++ composeBehind (some c) [] rest
      else composeBehind start (marks ++ [c]) rest

def composed (cs : List Char) : List Char :=
  composeBehind none [] (orderMarks (cs.flatMap partsOf))

end Ingest.Text
