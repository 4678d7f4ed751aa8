/-!
# Similar words

How alike two words are, by the characters that they have in common at about the same place (Jaro's
measure): the mean of the shares that these have in either word and the share of them that are in
the same order.
-/

namespace Ingest.Text

/-! ## Common characters -/

/-- Pair a character up with the first like one that is free and lies within bounds. -/
def pairWith (c : Char) (low high : Nat) : (index : Nat) → List (Char × Bool) →
    Option (List (Char × Bool))
  | _, [] => none
  | j, (d, taken) :: rest =>
    if !taken && c = d && low ≤ j && j < high then some ((d, true) :: rest)
    else (pairWith c low high (j + 1) rest).map ((d, taken) :: ·)

/-- The characters of a word that are paired up, and the other word with the pairs marked. -/
def pairAll (reach : Nat) : (index : Nat) → List Char → List (Char × Bool) →
    List Char × List (Char × Bool)
  | _, [], other => ([], other)
  | i, c :: rest, other =>
    match pairWith c (i - reach) (i + reach + 1) 0 other with
    | some other =>
      let (paired, other) := pairAll reach (i + 1) rest other
      (c :: paired, other)
    | none => pairAll reach (i + 1) rest other

/-- How far apart like characters may be. -/
def pairReach (a b : List Char) : Nat := max a.length b.length / 2 - 1

/-- The characters that two words have in common, in the order of either. -/
def inCommon (a b : List Char) : List Char × List Char :=
  let (paired, marked) := pairAll (pairReach a b) 0 a (b.map fun c => (c, false))
  (paired, (marked.filter (·.2)).map (·.1))

/-! ## The measure -/

/-- How alike two words are, as a fraction. -/
structure Likeness where
  share : Nat
  whole : Nat
  deriving DecidableEq, Repr

def Likeness.atLeast (l m : Likeness) : Bool := m.share * l.whole ≤ l.share * m.whole

/-- How alike two words are: from none to one. -/
def likeness (a b : List Char) : Likeness :=
  let (inA, inB) := inCommon a b
  let common := inA.length
  let moved := ((inA.zip inB).filter fun (c, d) => c ≠ d).length / 2
  if a.isEmpty && b.isEmpty then ⟨1, 1⟩
  else if common = 0 then ⟨0, 1⟩
  else
    ⟨common * common * b.length + common * common * a.length +
        (common - moved) * a.length * b.length,
      3 * a.length * b.length * common⟩

/-- The most like of some words, if one is like enough; the last of several. -/
def mostLike? (enough : Likeness) (word : String) (words : List String) : Option String :=
  let of (w : String) : Likeness := likeness word.toList w.toList
  let better (best : Option String) (w : String) : Option String :=
    if !(of w).atLeast enough then best
    else match best with
      | some b => if (of w).atLeast (of b) then some w else best
      | none => some w
  words.foldl better none

end Ingest.Text
