import Ingest.Files.Failure
import Ingest.Path
import Ingest.Text.Utf8
/-!
# File trees

A tree of folders, files, programs and links, and what a user can do with it by paths: they are
followed part by part, through links, from the root or from the working folder, as far as the user
may search the folders on the way.
-/

namespace Ingest.Files

/-- A program, by the codes it exits with; it has none when it is killed. -/
structure Program where
  /-- The codes for some first arguments. -/
  special : List (String × Option Int)
  otherwise : Option Int
  deriving DecidableEq, Repr

def Program.exitCode (p : Program) (args : List String) : Option Int :=
  match args with
  | first :: _ => (p.special.lookup first).getD p.otherwise
  | [] => p.otherwise

/-- What the user may do with a file or a folder. -/
structure Access where
  /-- To read a file, or list the names in a folder. -/
  read : Bool := true
  /-- To change a file, or which names there are in a folder. -/
  write : Bool := true
  /-- To look up a name in a folder. -/
  search : Bool := true
  deriving DecidableEq, Repr

/-- What lies at a location. -/
inductive Node where
  | folder (access : Access := {})
  | file (content : Bytes) (access : Access := {})
  | program (program : Program)
  /-- A file in place of a program: it may be launched, but nobody can run it. -/
  | brokenProgram (content : Bytes)
  | link (target : Path)
  /-- A device or a pipe, by what is read from it. -/
  | special (content : Bytes)
  deriving DecidableEq, Repr

/-- The names from the root to a location. -/
abbrev Location := List String

/-- A tree: what lies at each location below the root, and the working folder. -/
structure Tree where
  nodes : List (Location × Node)
  workingFolder : Location
  deriving DecidableEq, Repr

/-- Where a path leads: to something, or to a free name in a folder. -/
inductive Place where
  | taken (location : Location) (node : Node)
  | free (location : Location)
  deriving DecidableEq, Repr

namespace Tree

def find? (t : Tree) (location : Location) : Option Node :=
  if location = [] then some .folder else t.nodes.lookup location

/-- What the user may do with the folder at a location. -/
def accessAt (t : Tree) (location : Location) : Access :=
  match t.find? location with
  | some (.folder access) => access
  | _ => {}

/-! ## Following paths -/

/-- How many links a path may lead through. -/
def maxLinks : Nat := 40

/-- The length that a name may have, in bytes. -/
def maxName : Nat := 255

/-- The length that a path may have, in bytes. -/
def maxPath : Nat := 4095

def parts (p : Path) : List String := (Text.cut '/' p.text.toList).map String.ofList

/-- Where the parts of a path are followed from. -/
def origin (p : Path) (current : Location) : Location := if p.isAbsolute then [] else current

/-- Follow parts from a folder.  A link at the end is followed on demand. -/
def follow (t : Tree) (lastLink : Bool) :
    (links : Nat) → Location → List String → Except Failure Place
  | _, current, [] => .ok (.taken current (.folder (t.accessAt current)))
  | links, current, part :: rest =>
    if part = "" then t.follow lastLink links current rest
    else if !(t.accessAt current).search then .error .notPermitted
    else if part = "." then t.follow lastLink links current rest
    else if part = ".." then t.follow lastLink links current.dropLast rest
    else if maxName < (Utf8.encode part).length then .error .nameTooLong
    else
      let location := current ++ [part]
      match t.find? location with
      | none => if rest = [] then .ok (.free location) else .error .missing
      | some (.folder _) => t.follow lastLink links location rest
      | some (.link target) =>
        if rest = [] && !lastLink then .ok (.taken location (.link target))
        else match links with
          | 0 => .error .tooManyLinks
          | links + 1 => t.follow lastLink links (origin target current) (parts target ++ rest)
      | some node => if rest = [] then .ok (.taken location node) else .error .notFolder
termination_by links _ parts => (links, parts.length)

def place (t : Tree) (p : Path) (lastLink : Bool) : Except Failure Place :=
  if p.text.isEmpty then .error .missing
  else if p.text.toList.contains '\x00' then .error .zeroInPath
  else if maxPath < (Utf8.encode p.text).length then .error .nameTooLong
  else t.follow lastLink maxLinks (origin p t.workingFolder) (parts p)

def nodeAt (t : Tree) (p : Path) : Except Failure (Location × Node) := do
  match ← t.place p true with
  | .taken location node => return (location, node)
  | .free _ => .error .missing

/-! ## Looking -/

def isFolder (t : Tree) (p : Path) : Bool :=
  match t.nodeAt p with
  | .ok (_, .folder _) => true
  | _ => false

/-- The path leads to a file, as far as the user can see. -/
def isFile (t : Tree) (p : Path) : Bool :=
  match t.nodeAt p with
  | .ok (_, .file ..) | .ok (_, .program _) | .ok (_, .brokenProgram _) => true
  | _ => false

def read (t : Tree) (p : Path) : Except Failure Bytes := do
  match ← t.nodeAt p with
  | (_, .file content access) => if access.read then return content else .error .notPermitted
  | (_, .brokenProgram content) | (_, .special content) => return content
  | (_, .folder _) => .error .isFolder
  | _ => return []

/-- The names in a folder, in no particular order. -/
def names (t : Tree) (folder : Location) : List String :=
  t.nodes.filterMap fun (location, _) =>
    if location ≠ [] && location.dropLast = folder then location.getLast? else none

/-- The names of the files in a folder, if the path leads to a folder that may be listed. -/
def fileNames? (t : Tree) (folder : Path) : Option (List String) :=
  match t.nodeAt folder with
  | .ok (location, .folder access) =>
    if access.read then
      some ((t.names location).filter fun name => t.isFile (folder.child name))
    else none
  | _ => none

/-- The length that an argument of a program may have, in bytes. -/
def maxArgument : Nat := 131071

/-- The program at a path, if it can be given the arguments. -/
def program (t : Tree) (p : Path) (arguments : List String) : Except Failure Program := do
  let tooLong := arguments.any fun argument => maxArgument < (Utf8.encode argument).length
  match ← t.nodeAt p with
  | (_, .program program) => if tooLong then .error .argumentTooLong else return program
  | (_, .brokenProgram _) => .error (if tooLong then .argumentTooLong else .badFormat)
  | _ => .error .notPermitted

/-! ## Changing -/

def put (t : Tree) (location : Location) (node : Node) : Tree :=
  { t with nodes := t.nodes.filter (·.1 ≠ location) ++ [(location, node)] }

/-- Put something at a free location, if the folder there may be changed. -/
def add (t : Tree) (location : Location) (node : Node) : Except Failure Tree :=
  if (t.accessAt location.dropLast).write then .ok (t.put location node) else .error .notPermitted

def makeFolder (t : Tree) (p : Path) : Except Failure Tree := do
  match ← t.place p false with
  | .taken .. => .error .exists
  | .free location => t.add location .folder

/-- Make a folder after the folders that it lies in, at most `fuel` of them. -/
def makeFoldersWith : (fuel : Nat) → Tree → Path → Except Failure Tree
  | 0, _, _ => .error .missing
  | fuel + 1, t, p =>
    if p.text.isEmpty then .ok t
    else match t.makeFolder p with
      | .ok t => .ok t
      | .error .missing =>
        match p.parent? with
        | none => .error .missing
        | some parent => do
          let t ← makeFoldersWith fuel t parent
          if t.isFolder p then .ok t else t.makeFolder p
      | .error e => if t.isFolder p then .ok t else .error e

def makeFolders (t : Tree) (p : Path) : Except Failure Tree :=
  makeFoldersWith (p.text.length + 1) t p

/-- Write a file, in place of its content if there is one.  A program is no longer one. -/
def write (t : Tree) (p : Path) (content : Bytes) : Except Failure Tree := do
  match ← t.place p true with
  | .taken _ (.folder _) => .error .isFolder
  | .taken location (.program _) | .taken location (.brokenProgram _) =>
    return t.put location (.brokenProgram content)
  | .taken location (.file _ access) =>
    if access.write then return t.put location (.file content access) else .error .notPermitted
  | .taken .. => return t
  | .free location => t.add location (.file content)

/-- Put something at a path, in folders that are made as needed. -/
def plant (t : Tree) (p : Path) (node : Node) : Except Failure Tree := do
  let t ← match p.parent? with
    | some parent => t.makeFolders parent
    | none => .ok t
  match node with
  | .folder _ => t.makeFolders p
  | _ =>
    match ← t.place p false with
    | .taken location _ | .free location => return t.put location node

/-- The files below a location, with the names that lead to them and their content. -/
def filesBelow (t : Tree) (folder : Location) : List (List String × Bytes) :=
  t.nodes.filterMap fun (location, node) =>
    match node with
    | .file content _ | .brokenProgram content =>
      if folder.isPrefixOf location then some (location.drop folder.length, content) else none
    | _ => none

end Tree

end Ingest.Files
