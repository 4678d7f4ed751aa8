import Ingest.Text.Cut
/-!
# Paths

Paths of a file system whose parts are separated by slashes.  All names in it are Unicode text.  A
path keeps its text; empty parts and single dots after the first part stand for nothing.
-/

namespace Ingest

/-- A path, by its text. -/
structure Path where
  text : String
  deriving DecidableEq, Repr

namespace Path

/-- What a path starts with: the root, the current folder, or one of its parts. -/
inductive Start where
  | root
  | current
  | plain
  deriving DecidableEq, Repr

/-- The start of a path, with the text that follows its root or leading dot. -/
def start : List Char → Start × List Char
  | '/' :: rest => (.root, rest)
  | ['.'] => (.current, [])
  | '.' :: '/' :: rest => (.current, '/' :: rest)
  | cs => (.plain, cs)

def Start.text : Start → List Char
  | .root => ['/']
  | .current => ['.']
  | .plain => []

/-- A part that stands for nothing. -/
def isIdle (part : List Char) : Bool := part = [] || part = ['.']

/-- The parts of a path after its start, the last first, from the last that stands for something. -/
def partsFromEnd (body : List Char) : List (List Char) :=
  (Text.cut '/' body).reverse.dropWhile isIdle

/-- The last component of a path: its last part, or its start. -/
def lastComponent? (p : Path) : Option String :=
  let (start, body) := start p.text.toList
  match partsFromEnd body with
  | part :: _ => some (String.ofList part)
  | [] => if start = .plain then none else some (String.ofList start.text)

/-- The last part of a path, unless it leads to the folder above. -/
def fileName? (p : Path) : Option String :=
  match partsFromEnd (start p.text.toList).2 with
  | part :: _ => if part = ['.', '.'] then none else some (String.ofList part)
  | [] => none

/-- The path without its last component. -/
def parent? (p : Path) : Option Path :=
  let (start, body) := start p.text.toList
  match partsFromEnd body with
  | _ :: parts =>
    let parts := parts.dropWhile isIdle
    some ⟨String.ofList (start.text ++ Text.glue '/' parts.reverse)⟩
  | [] => if start = .current then some ⟨""⟩ else none

/-- The text after the last dot of a name, if there is text before that dot. -/
def extensionOf (name : List Char) : Option (List Char) :=
  match (Text.cut '.' name).reverse with
  | last :: before :: others => if others = [] && before = [] then none else some last
  | _ => none

def extension? (p : Path) : Option String :=
  p.fileName?.bind fun name => (extensionOf name.toList).map String.ofList

def isAbsolute (p : Path) : Bool := p.text.toList.head? = some '/'

/-- A path below another one; a path that starts at the root stays as it is. -/
def join (p q : Path) : Path :=
  if q.isAbsolute then q
  else if p.text.isEmpty || p.text.toList.getLast? = some '/' then ⟨p.text ++ q.text⟩
  else ⟨p.text ++ "/" ++ q.text⟩

/-- A path below another one, by its text. -/
def child (p : Path) (name : String) : Path := p.join ⟨name⟩

end Path

end Ingest
