import Ingest.Text.Alphanumeric
import Ingest.Text.Blank
import Ingest.Text.Utf8
/-!
# Settings files

A settings file gives values to names, one to a line.  A value may be quoted, may be followed by a
remark and may refer to names that have a value already.  The first line that cannot be read ends
the file.
-/

namespace Ingest.CommandLine.Settings

abbrev Variables := List (String × String)

/-! ## Lines -/

/-- Where a character stands: in plain text, after a space, after a backslash, or in quotes. -/
inductive Mode where
  | plain
  | spaced
  | escaped
  | strong
  | strongEscaped
  | weak
  | weakEscaped
  | remark
  deriving DecidableEq, Repr

def Mode.next (mode : Mode) (c : Char) : Mode :=
  let opened : Mode :=
    if c = '\\' then .escaped else if c = '"' then .weak else if c = '\'' then .strong else .plain
  match mode with
  | .spaced => if c = '#' then .remark else opened
  | .escaped => .plain
  | .plain => if Text.isBlankChar c && c ≠ '\n' && c ≠ '\r' then .spaced else opened
  | .weak => if c = '\\' then .weakEscaped else if c = '"' then .plain else .weak
  | .weakEscaped => .weak
  | .strong => if c = '\\' then .strongEscaped else if c = '\'' then .plain else .strong
  | .strongEscaped => .strong
  | .remark => .remark

/-- The end of a line in this mode ends its text.  Behind a space it does not: a line break would
have ended the space. -/
def Mode.isSettled : Mode → Bool
  | .plain | .remark => true
  | _ => false

/-- Read the characters of a line up to a remark. -/
def scanLine (mode : Mode) : List Char → List Char × Mode
  | [] => ([], mode)
  | c :: rest =>
    match mode.next c with
    | .remark => ([], .remark)
    | next =>
      let (text, last) := scanLine next rest
      (c :: text, last)

/-- Cut bytes after every line break. -/
def byteLines : Bytes → List Bytes
  | [] => []
  | b :: rest =>
    if b = 0x0A then [b] :: byteLines rest
    else match byteLines rest with
      | [] => [[b]]
      | line :: lines => (b :: line) :: lines

/-- Drop a line break at the end. -/
def dropLineBreak (cs : List Char) : List Char :=
  match cs.reverse with
  | '\n' :: '\r' :: rest | '\n' :: rest => rest.reverse
  | _ => cs

/-- The first character that is not blank marks a remark. -/
def isRemark (cs : List Char) : Bool := (cs.dropWhile Text.isBlankChar).head? = some '#'

/-- Join lines while quotes are open.  The text of a line that cannot be read, or that the file
breaks off, is not there. -/
def logicalLines (before : List Char) (mode : Mode) : List Bytes → List (Option (List Char))
  | [] => if mode = .plain then [] else [none]
  | line :: lines =>
    match Utf8.decode? line with
    | none => [none]
    | some text =>
      if isRemark (before ++ text.toList) then some [] :: logicalLines [] .plain lines
      else
        let (kept, mode) := scanLine mode text.toList
        if mode = .remark then some (before ++ kept) :: logicalLines [] .plain lines
        else if mode.isSettled then
          some (dropLineBreak (before ++ kept)) :: logicalLines [] .plain lines
        else logicalLines (before ++ kept) mode lines

/-! ## Values -/

/-- What a name refers to: the value it has in the environment or in the file. -/
def lookUp (environment known : Variables) (name : String) : List Char :=
  ((environment.lookup name).getD ((known.lookup name).getD "")).toList

/-- How far a value has been read. -/
inductive Reading where
  | plain
  | escaped (weak : Bool)
  | strong
  | weak
  /-- A reference, with its name so far. -/
  | name (weak : Bool) (name : List Char)
  /-- A reference in braces. -/
  | braced (weak : Bool) (name : List Char)
  /-- Only a remark may follow. -/
  | ended
  deriving DecidableEq, Repr

/-- Plain text, or text in weak quotes. -/
def Reading.inside (weak : Bool) : Reading := if weak then .weak else .plain

/-- The character that an escaped one stands for. -/
def unescape? (c : Char) : Option Char :=
  if "\\'\"$ ".toList.contains c then some c else if c = 'n' then some '\n' else none

/-- Read a value; nothing comes of one that cannot be read. -/
def readValue (environment known : Variables) : Reading → List Char → Option (List Char)
  | .ended, c :: rest =>
    if c = ' ' || c = '\t' then readValue environment known .ended rest
    else if c = '#' then some []
    else none
  | .escaped weak, c :: rest => do
    let e ← unescape? c
    return e :: (← readValue environment known (.inside weak) rest)
  | .strong, c :: rest =>
    if c = '\'' then readValue environment known .plain rest
    else (readValue environment known .strong rest).map (c :: ·)
  | .name weak name, c :: rest =>
    if Text.isAlphanumeric c then readValue environment known (.name weak (name ++ [c])) rest
    else if c = '\x7b' && name.isEmpty then readValue environment known (.braced weak []) rest
    else
      let value := lookUp environment known (String.ofList name)
      if c = '$' then (readValue environment known (.name weak []) rest).map (value ++ ·)
      else (readValue environment known (.inside weak) rest).map (value ++ c :: ·)
  | .braced weak name, c :: rest =>
    if c = '\x7d' then
      (readValue environment known (.inside weak) rest).map
        (lookUp environment known (String.ofList name) ++ ·)
    else readValue environment known (.braced weak (name ++ [c])) rest
  | .weak, c :: rest =>
    if c = '$' then readValue environment known (.name true []) rest
    else if c = '"' then readValue environment known .plain rest
    else if c = '\\' then readValue environment known (.escaped true) rest
    else (readValue environment known .weak rest).map (c :: ·)
  | .plain, c :: rest =>
    if c = '$' then readValue environment known (.name false []) rest
    else if c = '\'' then readValue environment known .strong rest
    else if c = '"' then readValue environment known .weak rest
    else if c = '\\' then readValue environment known (.escaped false) rest
    else if c = ' ' || c = '\t' then readValue environment known .ended rest
    else (readValue environment known .plain rest).map (c :: ·)
  | .name false name, [] => some (lookUp environment known (String.ofList name))
  | .plain, [] | .ended, [] | .escaped false, [] => some []
  | _, [] => none

/-! ## Entries -/

/-- A character of a name after the first. -/
def isNameChar (c : Char) : Bool := c.isAlphanum || c = '_' || c = '.'

/-- A name and what follows it and the blank space behind it. -/
def readName (cs : List Char) : Option (List Char × List Char) :=
  match cs with
  | c :: _ =>
    if c.isAlpha || c = '_' then
      some (cs.takeWhile isNameChar, (cs.dropWhile isNameChar).dropWhile Text.isBlankChar)
    else none
  | [] => none

/-- A name and what follows the equals sign; the name may be marked for export. -/
def readEntryName (cs : List Char) : Option (List Char × List Char) := do
  let (name, rest) ← readName cs
  match rest with
  | '=' :: value => return (name, value)
  | _ =>
    guard (name = "export".toList)
    match ← readName rest with
    | (name, '=' :: value) => return (name, value)
    | _ => none

inductive Line where
  | nothing
  | entry (name value : String)
  | unreadable
  deriving DecidableEq, Repr

def readLine (environment known : Variables) (cs : List Char) : Line :=
  let cs := (Text.trim (String.ofList cs)).toList
  if cs.isEmpty || cs.head? = some '#' then .nothing
  else match readEntryName cs with
    | none => .unreadable
    | some (name, value) =>
      let value := value.dropWhile Text.isBlankChar
      if value.isEmpty || value.head? = some '#' then .entry (String.ofList name) ""
      else match readValue environment known .plain value with
        | some text => .entry (String.ofList name) (String.ofList text)
        | none => .unreadable

/-- A name that cannot be given its value: no variable holds a zero character. -/
structure Unsettable where
  name : String
  value : String
  deriving DecidableEq, Repr

/-- Give a value to a name.  A name that has a value keeps it. -/
def give (environment : Variables) (name value : String) : Except Unsettable Variables :=
  if (environment.lookup name).isSome then .ok environment
  else if value.toList.contains '\x00' then .error ⟨name, value⟩
  else .ok (environment ++ [(name, value)])

/-- Add the entries of lines to the environment. -/
def load (environment known : Variables) :
    List (Option (List Char)) → Except Unsettable Variables
  | [] | none :: _ => .ok environment
  | some cs :: lines =>
    match readLine environment known cs with
    | .unreadable => .ok environment
    | .nothing => load environment known lines
    | .entry name value => do
      load (← give environment name value) ((name, value) :: known) lines

def extend (environment : Variables) (file : Bytes) : Except Unsettable Variables :=
  let file := match file with
    | 0xEF :: 0xBB :: 0xBF :: rest => rest
    | _ => file
  load environment [] (logicalLines [] .plain (byteLines file))

end Ingest.CommandLine.Settings
