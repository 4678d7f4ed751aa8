/-!
# Blank text

The characters that count as blank space, and trimming.  The class is the White_Space property of
Unicode, so it holds the no-break space and the line separators, and not the zero-width ones.
-/

namespace Ingest.Text

/-- The White_Space property. -/
def isBlankChar (c : Char) : Bool :=
  let n := c.toNat
  (0x9 ≤ n && n ≤ 0xD) || n == 0x20 || n == 0x85 || n == 0xA0 || n == 0x1680 ||
    (0x2000 ≤ n && n ≤ 0x200A) || n == 0x2028 || n == 0x2029 || n == 0x202F || n == 0x205F ||
    n == 0x3000

/-- Drop a class of characters at both ends. -/
def trimWhile (p : Char → Bool) (s : String) : String :=
  String.ofList (((s.toList.dropWhile p).reverse.dropWhile p).reverse)

def trimEndWhile (p : Char → Bool) (s : String) : String :=
  String.ofList ((s.toList.reverse.dropWhile p).reverse)

/-- Drop the blank space at both ends. -/
def trim (s : String) : String := trimWhile isBlankChar s

/-- The text is empty or holds blank space only. -/
def isBlank (s : String) : Bool := s.toList.all isBlankChar

end Ingest.Text
