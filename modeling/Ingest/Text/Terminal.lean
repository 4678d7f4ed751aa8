import Ingest.Text.Utf8
/-!
# Plain text for terminals

Text for a terminal can hold control sequences, which change how it is shown.  The plain text is
what is left without them and without all controls that are no blank space.
-/

namespace Ingest.Text.Terminal

/-- Where in a control sequence a byte stands. -/
inductive Place where
  /-- In no sequence. -/
  | outside
  /-- Behind the escape character. -/
  | escaped
  /-- Behind the marks after the escape character. -/
  | marked
  /-- In a sequence of numbers and marks that a letter ends. -/
  | sequence
  /-- At the start, in the numbers or in the marks of what comes before a string. -/
  | stringStart
  | stringNumbers
  | stringMarks
  /-- In a string that a terminator ends. -/
  | string
  /-- In a title that a bell ends. -/
  | title
  /-- In a character of several bytes, with this many to come. -/
  | character (left : Nat)
  deriving DecidableEq, Repr

/-- The byte lies between two others. -/
def between (low high b : UInt8) : Bool := low ≤ b && b ≤ high

/-- The bytes to come in a character that begins with a byte, if it has several. -/
def following? (b : UInt8) : Option Nat :=
  if between 0xC2 0xDF b then some 1
  else if between 0xE0 0xEF b then some 2
  else if between 0xF0 0xF4 b then some 3
  else none

/-- Where a byte behind the escape character leads. -/
def afterEscape (b : UInt8) : Option Place :=
  if between 0x20 0x2F b then some .marked
  else if b = 0x5B then some .sequence
  else if b = 0x50 then some .stringStart
  else if b = 0x58 || b = 0x5E || b = 0x5F then some .string
  else if b = 0x5D then some .title
  else if between 0x30 0x7E b then some .outside
  else none

/-- Where a byte leads; nowhere if the place stays. -/
def Place.next (p : Place) (b : UInt8) : Option Place :=
  if b = 0x18 || b = 0x1A then some .outside
  else if b = 0x1B then some .escaped
  else match p with
    | .outside => (following? b).map .character
    | .escaped => afterEscape b
    | .marked => if between 0x30 0x7E b then some .outside else none
    | .sequence => if between 0x40 0x7E b then some .outside else none
    | .stringStart =>
      if between 0x20 0x2F b then some .stringMarks
      else if between 0x30 0x3F b then some .stringNumbers
      else if between 0x40 0x7E b then some .string
      else none
    | .stringNumbers =>
      if between 0x20 0x2F b then some .stringMarks
      else if between 0x3C 0x7E b then some .string
      else none
    | .stringMarks => if between 0x30 0x7E b then some .string else none
    | .string => if b = 0x9C then some .outside else none
    | .title => if b = 0x07 then some .outside else none
    | .character _ => none

/-- A control that is blank space. -/
def isBlankControl (b : UInt8) : Bool := b = 0x09 || b = 0x0A || b = 0x0C || b = 0x0D

/-- A byte is shown at a place.  Blank space is shown even inside a sequence, but not in a string
or a title. -/
def Place.shows (p : Place) (b : UInt8) : Bool :=
  match p with
  | .outside => isBlankControl b || between 0x20 0x7E b || (following? b).isSome
  | .escaped | .marked | .sequence => isBlankControl b
  | .character _ => true
  | _ => false

/-- The bytes that are shown.  Text that is being shown goes on until a byte that is not shown
outside of sequences; the place before it counts again from there. -/
def shown : (showing : Bool) → Place → Bytes → Bytes
  | _, _, [] => []
  | _, .character left, b :: rest =>
    b :: shown true (if left ≤ 1 then .outside else .character (left - 1)) rest
  | true, p, b :: rest =>
    let next := (Place.outside.next b).getD p
    if Place.outside.shows b then b :: shown true next rest
    else shown false ((next.next b).getD next) rest
  | false, p, b :: rest =>
    let next := (p.next b).getD p
    if p.shows b then b :: shown true next rest else shown false next rest

def plain (s : String) : String := Utf8.decodeLossy (shown false .outside (Utf8.encode s))

end Ingest.Text.Terminal
