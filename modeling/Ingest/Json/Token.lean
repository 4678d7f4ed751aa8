import Ingest.Text.Hex
import Ingest.Json.Cause
/-!
# JSON tokens

A JSON text as a list of tokens.  Spaces between tokens leave no trace.  A text inside quotes is
read at once, and the cause that refuses it is kept with the token, because it counts only where
the text is looked at.  The list ends at the first place where no token can be read.
-/

namespace Ingest.Json

/-- Why reading stops at a place: the cause for a reader that looks at the value there, and the
cause for one that skips it. -/
structure Break where
  strict : Cause
  skipped : Cause
  deriving DecidableEq, Repr

/-- The same cause for both kinds of reader. -/
def Break.both (c : Cause) : Break := ⟨c, c⟩

/-- A number as it is written: digits before and after the point and the power of ten. -/
structure Numeral where
  negative : Bool
  whole : List Nat
  fraction : Option (List Nat)
  exponent : Option (Bool × List Nat)
  deriving DecidableEq, Repr

inductive Token where
  | openList
  | closeList
  | openObject
  | closeObject
  | comma
  | colon
  | null
  | bool (b : Bool)
  | number (n : Numeral)
  /-- A quoted text that ends; it may still hold what a reader refuses. -/
  | text (content : Except Cause String)
  /-- A quoted text that cannot be passed over. -/
  | brokenText (stop : Break)
  /-- A word or number that cannot be passed over. -/
  | broken (stop : Break)
  /-- A character that starts no token. -/
  | stray
  deriving Repr

/-- Nothing after this token can be read. -/
def Token.isLast : Token → Bool
  | .brokenText _ | .broken _ | .stray => true
  | _ => false

/-- The characters that may stand between tokens. -/
def isSpace (c : Char) : Bool := c = ' ' || c = '\t' || c = '\n' || c = '\r'

/-! ## Quoted texts -/

/-- A part of a quoted text: a character, or a 16-bit unit written by its number. -/
inductive Piece where
  | char (c : Char)
  | unit (n : Nat)
  deriving DecidableEq, Repr

/-- How the characters of a quoted text come to an end. -/
inductive TextEnd where
  | closed
  | cut
  | badEscape
  | badUnit
  | control
  deriving DecidableEq, Repr

/-- A quoted text taken apart, with the number of characters it takes up. -/
structure TextScan where
  pieces : List Piece
  ending : TextEnd
  length : Nat
  deriving Repr

/-- Put a piece that takes up `n` characters in front. -/
def TextScan.push (p : Piece) (n : Nat) (s : TextScan) : TextScan :=
  ⟨p :: s.pieces, s.ending, s.length + n⟩

/-- The unit that four hexadecimal digits name. -/
def unit? (a b c d : Char) : Option Nat := do
  let w ← Hex.value? a
  let x ← Hex.value? b
  let y ← Hex.value? c
  let z ← Hex.value? d
  return ((w * 16 + x) * 16 + y) * 16 + z

/-- The character that a letter after a backslash stands for. -/
def escaped? (c : Char) : Option Char :=
  if c = '"' || c = '\\' || c = '/' then some c
  else if c = 'b' then some '\x08'
  else if c = 'f' then some '\x0c'
  else if c = 'n' then some '\n'
  else if c = 'r' then some '\r'
  else if c = 't' then some '\t'
  else none

/-- Take apart what follows an opening quote.  A unit needs four bytes after it, so a text that
ends before them is cut. -/
def scanText : List Char → TextScan
  | [] => ⟨[], .cut, 0⟩
  | '"' :: _ => ⟨[], .closed, 1⟩
  | '\\' :: 'u' :: a :: b :: c :: d :: rest =>
    match unit? a b c d with
    | some n => (scanText rest).push (.unit n) 6
    | none => ⟨[], .badUnit, 0⟩
  | '\\' :: 'u' :: rest =>
    ⟨[], if 4 ≤ (rest.flatMap String.utf8EncodeChar).length then .badUnit else .cut, 0⟩
  | '\\' :: c :: rest =>
    match escaped? c with
    | some e => (scanText rest).push (.char e) 2
    | none => ⟨[], .badEscape, 0⟩
  | '\\' :: [] => ⟨[], .cut, 0⟩
  | c :: rest =>
    if c.toNat < 0x20 then ⟨[], .control, 0⟩ else (scanText rest).push (.char c) 1

/-- The first half of a surrogate pair. -/
def isLead (n : Nat) : Bool := 0xD800 ≤ n && n ≤ 0xDBFF

/-- The second half of a surrogate pair. -/
def isTrail (n : Nat) : Bool := 0xDC00 ≤ n && n ≤ 0xDFFF

def pairedChar (lead trail : Nat) : Char :=
  Char.ofNat ((lead - 0xD800) * 0x400 + (trail - 0xDC00) + 0x10000)

def TextEnd.cause? : TextEnd → Option Cause
  | .closed => none
  | .cut => some .endInString
  | .badEscape | .badUnit => some .badEscape
  | .control => some .controlCharacter

/-- What is wrong with a first half that no unit follows. -/
def TextEnd.causeAfterLead : TextEnd → Cause
  | .cut => .endInString
  | .badUnit => .badEscape
  | _ => .brokenSurrogatePair

/-- Join units to characters; halves of surrogate pairs must come in pairs. -/
def joinPieces (ending : TextEnd) : List Piece → Except Cause (List Char)
  | [] => match ending.cause? with
    | none => .ok []
    | some c => .error c
  | .char c :: rest => do return c :: (← joinPieces ending rest)
  | .unit n :: rest =>
    if isTrail n then .error .loneSurrogate
    else if isLead n then
      match rest with
      | .unit m :: rest =>
        if isTrail m then do return pairedChar n m :: (← joinPieces ending rest)
        else .error .loneSurrogate
      | .char _ :: _ => .error .brokenSurrogatePair
      | [] => .error ending.causeAfterLead
    else do return Char.ofNat n :: (← joinPieces ending rest)

def TextScan.token (s : TextScan) : Token :=
  let content := (joinPieces s.ending s.pieces).map String.ofList
  match s.ending.cause?, content with
  | none, content => .text content
  | some c, .error e => .brokenText ⟨e, c⟩
  | some c, .ok _ => .brokenText ⟨c, c⟩

/-! ## Numbers and words -/

def digits (cs : List Char) : List Nat := (cs.takeWhile Char.isDigit).map (·.toNat - 48)

/-- A number that stops where a digit should stand. -/
def brokenNumber (rest : List Char) : Token :=
  .broken ⟨if rest.isEmpty then .endInValue else .badNumber, .badNumber⟩

/-- The power of ten that may follow a number, with the number of characters it takes up. -/
def scanExponent (n : Numeral) (length : Nat) : List Char → Token × Nat
  | e :: rest =>
    if e = 'e' || e = 'E' then
      let (negative, rest, signs) := match rest with
        | '-' :: rest => (true, rest, 1)
        | '+' :: rest => (false, rest, 1)
        | _ => (false, rest, 0)
      match digits rest with
      | [] => (brokenNumber rest, 0)
      | ds => (.number { n with exponent := some (negative, ds) }, length + 1 + signs + ds.length)
    else (.number n, length)
  | [] => (.number n, length)

/-- The digits after a point, if there is one, and what follows. -/
def scanFraction (n : Numeral) (length : Nat) : List Char → Token × Nat
  | '.' :: rest =>
    match digits rest with
    | [] => (brokenNumber rest, 0)
    | ds => scanExponent { n with fraction := some ds } (length + 1 + ds.length)
        (rest.drop ds.length)
  | rest => scanExponent n length rest

/-- A number after its sign.  A leading zero stands alone. -/
def scanNumber (negative : Bool) (cs : List Char) : Token × Nat :=
  let signs := if negative then 1 else 0
  match digits cs with
  | [] => (brokenNumber cs, 0)
  | 0 :: _ :: _ => (.broken (.both .badNumber), 0)
  | ds => scanFraction ⟨negative, ds, none, none⟩ (signs + ds.length) (cs.drop ds.length)

/-- The letters that are left of a word: they must follow one by one. -/
def scanWord (t : Token) (length : Nat) : List Char → List Char → Token × Nat
  | [], _ => (t, length)
  | _ :: _, [] => (.broken (.both .endInValue), 0)
  | w :: ws, c :: cs =>
    if w = c then scanWord t length ws cs else (.broken (.both .unknownWord), 0)

/-! ## Texts -/

/-- The token that starts with a character, and the number of characters it takes up. -/
def scanToken (c : Char) (rest : List Char) : Token × Nat :=
  if c = '[' then (.openList, 1)
  else if c = ']' then (.closeList, 1)
  else if c = '\x7b' then (.openObject, 1)
  else if c = '\x7d' then (.closeObject, 1)
  else if c = ',' then (.comma, 1)
  else if c = ':' then (.colon, 1)
  else if c = '"' then
    let s := scanText rest
    (s.token, s.length + 1)
  else if c = 'n' then scanWord .null 4 "ull".toList rest
  else if c = 't' then scanWord (.bool true) 4 "rue".toList rest
  else if c = 'f' then scanWord (.bool false) 5 "alse".toList rest
  else if c = '-' then scanNumber true rest
  else if c.isDigit then scanNumber false (c :: rest)
  else (.stray, 1)

/-- A token with its place: the number of characters before it and the number it takes up. -/
structure Lexeme where
  token : Token
  start : Nat
  length : Nat
  deriving Repr

/-- The tokens after the next `used` characters, which belong to a token already read; `index`
characters have been read before those. -/
def lexemesFrom : (index used : Nat) → List Char → List Lexeme
  | _, _, [] => []
  | index, used + 1, _ :: rest => lexemesFrom (index + 1) used rest
  | index, 0, c :: rest =>
    if isSpace c then lexemesFrom (index + 1) 0 rest
    else
      let (t, length) := scanToken c rest
      if t.isLast then [⟨t, index, length⟩]
      else ⟨t, index, length⟩ :: lexemesFrom (index + 1) (length - 1) rest

def lexemes (s : String) : List Lexeme := lexemesFrom 0 0 s.toList

def tokens (s : String) : List Token := (lexemes s).map (·.token)

end Ingest.Json
