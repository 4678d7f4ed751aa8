import Ingest.Json.Reader
/-!
# Defects of JSON texts

A defect is a cause with the place in the text where it is found.  That is the end of the shortest
beginning of the text that has the defect: a reader that takes one token after the other stops
there.  Within a token the same holds of its characters, as far as they are taken one by one.
-/

namespace Ingest.Json

/-! ## Places -/

/-- A line, counted from one, and the number of bytes before a place in it. -/
structure Position where
  line : Nat
  column : Nat
  deriving DecidableEq, Repr

namespace Position

def origin : Position := ⟨1, 0⟩

/-- The place after a character. -/
def pass (p : Position) (c : Char) : Position :=
  if c = '\n' then ⟨p.line + 1, 0⟩ else ⟨p.line, p.column + c.utf8Size⟩

/-- The place after the first byte of a character. -/
def passByte (p : Position) (c : Char) : Position :=
  if c = '\n' then ⟨p.line + 1, 0⟩ else ⟨p.line, p.column + 1⟩

def after (cs : List Char) : Position := cs.foldl pass origin

/-- The place after some more bytes of the characters that follow. -/
def passBytes (p : Position) : Nat → List Char → Position
  | _, [] => p
  | n, c :: rest =>
    if n = 0 then p
    else if c.utf8Size ≤ n then (p.pass c).passBytes (n - c.utf8Size) rest
    else ⟨p.line, p.column + n⟩

/-- The place after some characters and the first byte of the one that follows. -/
def afterByte (cs : List Char) (n : Nat) : Position :=
  match cs[n]? with
  | some c => (after (cs.take n)).passByte c
  | none => after cs

end Position

structure Defect where
  cause : Cause
  position : Position
  deriving DecidableEq, Repr

def Defect.message (d : Defect) : String :=
  s!"{d.cause.message} at line {d.position.line} column {d.position.column}"

/-! ## Finding the place -/

/-- The least number from `low` to `high` at which a property holds, if it holds from there on. -/
def leastFrom (holds : Nat → Bool) (low high : Nat) : Nat :=
  if low < high then
    if holds ((low + high) / 2) then leastFrom holds low ((low + high) / 2)
    else leastFrom holds ((low + high) / 2 + 1) high
  else low
termination_by high - low
decreasing_by all_goals omega

def Reader.cause? {α : Type} (r : Reader α) (ts : List Token) : Option Cause :=
  match (Document.ofTokens ts).read r with
  | .ok _ => none
  | .error c => some c

def Token.hasCause (c : Cause) : Token → Bool
  | .text (.error e) => e = c
  | .brokenText b | .broken b => b.strict = c || b.skipped = c
  | _ => false

/-- Where a cause is found, seen from the token that gives rise to it. -/
inductive Mark where
  | start
  | firstByte
  | stop
  | inside
  | firstByteOfNext
  /-- After the next token if it closes an object, else before it. -/
  | close
  deriving DecidableEq, Repr

/-- The mark for a cause.  An item too many in a record is found behind its comma. -/
def Cause.mark (c : Cause) (t : Token) (itemTooMany : Bool) : Mark :=
  if t.hasCause c then .inside
  else match c with
    | .wrongKind .list _ | .wrongKind .map _ => .start
    | .wrongKind .. | .numberOutOfRange | .missingField _ | .tooShort .. => .stop
    | .duplicateField _ | .noVariant _ => .close
    | .trailingCharacters => if itemTooMany then .firstByteOfNext else .firstByte
    | _ => .firstByte

def Token.closesObject : Token → Bool
  | .closeObject => true
  | _ => false

def Token.isComma : Token → Bool
  | .comma => true
  | _ => false

/-- The place of a mark; `inner` is the place of a cause inside the token. -/
def Mark.position (m : Mark) (cs : List Char) (l : Lexeme) (inner : Position)
    (next : Option Lexeme) : Position :=
  let nextStart := (next.map (·.start)).getD cs.length
  match m with
  | .start => .after (cs.take l.start)
  | .firstByte => .afterByte cs l.start
  | .stop => .after (cs.take (l.start + l.length))
  | .inside => inner
  | .firstByteOfNext => .afterByte cs nextStart
  | .close =>
    if (next.map (·.token.closesObject)).getD false then .afterByte cs nextStart
    else .after (cs.take nextStart)

/-! ## Inside a token -/

/-- The token is a number that the text breaks off in.  Where it is skipped it counts as a bad one
already, but the place of a bad number is behind the character that makes it bad. -/
def Token.isCutNumber : Token → Bool
  | .broken stop => stop.strict ≠ stop.skipped
  | _ => false

/-- The number of characters of a token up to a cause inside. -/
def Reader.reach {α : Type} (r : Reader α) (cs : List Char) (l : Lexeme) (c : Cause) : Nat :=
  let holds (n : Nat) : Bool :=
    let beginning := lexemes (String.ofList (cs.take (l.start + n)))
    r.cause? (beginning.map (·.token)) = some c &&
      !beginning.any fun m => m.start = l.start && m.token.isCutNumber
  leastFrom holds 1 (cs.length - l.start)

def Reader.skipsAfter {α : Type} (r : Reader α) (ts : List Token) : Bool :=
  r.cause? (ts ++ [.brokenText ⟨.controlCharacter, .endInString⟩]) = some .endInString

/-- The number of bytes that are taken for the digits of a unit. -/
def unitBytes : Nat := 4

/-- The place of a cause inside a token.  The digits of a unit are taken together, and a control
character is looked at before it is skipped. -/
def Reader.innerPosition {α : Type} (r : Reader α) (cs : List Char) (before : List Token)
    (l : Lexeme) (c : Cause) : Position :=
  let text := scanText (cs.drop (l.start + 1))
  if c = .badEscape && text.ending = .badUnit then
    let digits := l.start + 1 + text.length + 2
    (Position.after (cs.take digits)).passBytes unitBytes (cs.drop digits)
  else
    let last := l.start + r.reach cs l c - 1
    if c = .controlCharacter && r.skipsAfter before then .after (cs.take last)
    else .afterByte cs last

/-! ## Places in a text -/

/-- The place of a cause that a reader finds in a text; what is missing is missed at the end. -/
def Reader.locate {α : Type} (r : Reader α) (s : String) (c : Cause) : Position :=
  let cs := s.toList
  let ls := lexemes s
  let found (n : Nat) : Option Cause := r.cause? ((ls.take n).map (·.token))
  let n := leastFrom (fun n => found n = some c) 0 ls.length
  if c.category = .ending then .after cs
  else match ls[n - 1]? with
    | none => .after cs
    | some l =>
      let itemTooMany := l.token.isComma && (found (n - 1)).isSome
      let inner := r.innerPosition cs ((ls.take (n - 1)).map (·.token)) l c
      (c.mark l.token itemTooMany).position cs l inner ls[n]?

/-- Read a whole text; a defect is reported with its place. -/
def Reader.ofText {α : Type} (r : Reader α) (s : String) : Except Defect α :=
  (r.read s).mapError fun c => ⟨c, r.locate s c⟩

/-- The value of a JSON text. -/
def Value.ofText (s : String) : Except Defect Value := Reader.value.ofText s

end Ingest.Json
