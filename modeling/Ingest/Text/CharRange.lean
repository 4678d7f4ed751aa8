/-!
# Ranges of characters

A property of characters is given by the ranges of the characters that have it.
-/

namespace Ingest.Text

def inRanges (ranges : List (Nat × Nat)) (n : Nat) : Bool :=
  ranges.any fun r => r.1 ≤ n && n ≤ r.2

end Ingest.Text
