import Ingest.Url.Basic
/-!
# Path segments

The path of a URL as a list of segments: reading it from text, where single and double dots lead
up and down, and appending segments, where every other character keeps its meaning.
-/

namespace Ingest.Url

/-! ## Classes of characters -/

/-- Characters that are encoded in a fragment. -/
def inFragmentClass (c : Char) : Bool :=
  Percent.control c || c == ' ' || c == '"' || c == '<' || c == '>' || c.toNat == 0x60

/-- Characters that are encoded in a path. -/
def inPathClass (c : Char) : Bool :=
  inFragmentClass c || c == '#' || c == '?' || c == '\x7b' || c == '\x7d'

/-- Characters that are encoded in an appended segment. -/
def inSegmentClass (special : Bool) (c : Char) : Bool :=
  inPathClass c || c == '/' || c == '%' || (special && c == '\\')

/-- Characters that are encoded in the name and password of a user. -/
def inUserClass (c : Char) : Bool := inPathClass c || "/:;=@[\\]^|".toList.contains c

/-- Characters that are encoded in a query. -/
def inQueryClass (special : Bool) (c : Char) : Bool :=
  Percent.control c || c == ' ' || c == '"' || c == '#' || c == '<' || c == '>' ||
    (special && c == '\'')

/-- Line breaks and tabs are passed over in a URL. -/
def isPassedOver (c : Char) : Bool := c == '\t' || c == '\n' || c == '\r'

/-! ## Reading -/

/-- A segment with its encoded dots decoded. -/
def decodeDots : List Char → List Char
  | '%' :: '2' :: 'e' :: rest | '%' :: '2' :: 'E' :: rest => '.' :: decodeDots rest
  | c :: rest => c :: decodeDots rest
  | [] => []

/-- A letter and a colon or bar: the name of a drive. -/
def isDrive : List Char → Bool
  | [c, d] => c.isAlpha && (d == ':' || d == '|')
  | _ => false

/-- The name of a drive, written with a colon. -/
def driveText (part : List Char) : List Char := part.take 1 ++ [':']

/-- The name of a drive, perhaps with more behind a backslash. -/
def startsWithDrive : List Char → Bool
  | c :: d :: '\\' :: _ => isDrive [c, d]
  | part => isDrive part

/-- Take the last segment away; a drive stays. -/
def goUp (parts : List String) : List String :=
  match parts.getLast? with
  | some part => if startsWithDrive part.toList then parts else parts.dropLast
  | none => []

/-- A drive at the start of a segment that a line break or tab sets off from what follows, and what
follows. -/
def splitDrive? (raw : List Char) : Option (String × List Char) :=
  match raw.dropWhile isPassedOver with
  | c :: rest =>
    match rest.dropWhile isPassedOver with
    | ':' :: d :: rest =>
      let after := rest.filter (!isPassedOver ·)
      if c.isAlpha && isPassedOver d && !after.isEmpty then some (String.ofList [c, ':'], after)
      else none
    | _ => none
  | [] => none

/-- How far a path has been read: its segments, and that it has entered a drive. -/
structure Way where
  parts : List String
  onDrive : Bool
  deriving DecidableEq, Repr

/-- Read one segment.  Dots at the end of a path leave an empty segment.  A path of a file enters
the drive that it begins with. -/
def Way.read (file : Bool) (way : Way) (part : List Char) (isLast : Bool) : Way :=
  let dots := decodeDots part
  let slash := if isLast then [""] else []
  if dots = ['.', '.'] then { way with parts := goUp way.parts ++ slash }
  else if dots = ['.'] then { way with parts := way.parts ++ slash }
  else if file && way.parts.isEmpty && isDrive part && !isLast then
    ⟨[String.ofList (driveText part)], true⟩
  else { way with parts := way.parts ++ [String.ofList (Percent.encode inPathClass part)] }

/-- Read one segment of a raw text.  A drive that is set off in it is a segment of its own, and what
follows it has no other meaning than its own. -/
def Way.readRaw (file : Bool) (way : Way) (raw : List Char) (isLast : Bool) : Way :=
  match if file && way.parts.isEmpty then splitDrive? raw else none with
  | some (drive, after) =>
    { way with parts := [drive, String.ofList (Percent.encode inPathClass after)] }
  | none => way.read file (raw.filter (!isPassedOver ·)) isLast

def Way.readAll (file : Bool) (way : Way) : List (List Char) → Way
  | [] => way
  | [raw] => way.readRaw file raw true
  | raw :: rest => (way.readRaw file raw false).readAll file rest

/-- Paths of files start with one slash. -/
def settleFile (file : Bool) (parts : List String) : List String :=
  if file then
    match parts.dropWhile String.isEmpty with
    | [] => [""]
    | rest => rest
  else parts

/-- In special URLs a backslash is a slash. -/
def slashes (special : Bool) (cs : List Char) : List Char :=
  cs.map fun c => if special && c == '\\' then '/' else c

/-- Read the raw text of a path on from where it has got to. -/
def Way.readPath (scheme : String) (way : Way) (raw : List Char) : Way :=
  let file := scheme = "file"
  let way := way.readAll file (Text.cut '/' (slashes (isSpecial scheme) raw))
  { way with parts := settleFile file way.parts }

def readPathBelow (scheme : String) (parts : List String) (cs : List Char) : List String :=
  ((⟨parts, false⟩ : Way).readPath scheme cs).parts

/-- The text of a path without the slash that only marks the root. -/
def belowRoot (scheme : String) (cs : List Char) : List Char :=
  match slashes (isSpecial scheme) cs with
  | '/' :: rest => rest
  | cs => cs

/-- Read a path from the root. -/
def readPath (scheme : String) (cs : List Char) : List String :=
  readPathBelow scheme [] (belowRoot scheme cs)

/-! ## Appending -/

/-- Drop an empty last segment, unless it is the only one. -/
def dropEmptyLast (parts : List String) : List String :=
  if 2 ≤ parts.length && parts.getLast? = some "" then parts.dropLast else parts

/-- The segments that a new one comes after; the root alone is no segment. -/
def openSegments (parts : List String) : List String := if parts = [""] then [] else parts

/-- What a segment that is appended holds, encoded. -/
def encodePart (scheme : String) (part : List Char) : String :=
  String.ofList (Percent.encode (inSegmentClass (isSpecial scheme)) part)

/-- Append what a segment holds.  Dots lead up and down. -/
def appendPart (scheme : String) (parts : List String) (part : List Char) : List String :=
  if part = ['.', '.'] then goUp parts ++ [""]
  else if part = ['.'] then parts ++ [""]
  else parts ++ [encodePart scheme part]

/-- Append one segment.  Dots alone name no segment. -/
def pushSegment (scheme : String) (parts : List String) (segment : String) : List String :=
  if segment = "." || segment = ".." then parts
  else
    let before := openSegments parts
    if scheme = "file" then
      settleFile true <|
        match if before.isEmpty then splitDrive? segment.toList else none with
        | some (drive, part) => [drive, encodePart scheme part]
        | none => appendPart scheme before (segment.toList.filter (!isPassedOver ·))
    else appendPart scheme before (segment.toList.filter (!isPassedOver ·))

/-- Append segments to the path of a URL, in place of an empty last one.  An empty segment at the
end makes for a slash there.  A path of any other form stays. -/
def join (u : Url) (segments : List String) : Url :=
  { u with
    path := u.path.mapParts fun parts => segments.foldl (pushSegment u.scheme) (dropEmptyLast parts) }

end Ingest.Url
