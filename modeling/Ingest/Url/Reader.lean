import Ingest.Text.Blank
import Ingest.Url.Segments
/-!
# Reading URLs

A URL is read from text on its own, or as a reference from a URL that is already known.
-/

namespace Ingest.Url

/-! ## Parts -/

/-- A text without the spaces and controls at its ends. -/
def inner (s : String) : List Char := (Text.trimWhile (·.toNat ≤ 0x20) s).toList

/-- What is looked at in a text: line breaks and tabs are not. -/
def significant (raw : List Char) : List Char := raw.filter (!isPassedOver ·)

/-- What follows the first characters of a text, not counting the ones that are passed over. -/
def dropSignificant : Nat → List Char → List Char
  | _, [] => []
  | n, c :: rest =>
    if isPassedOver c then dropSignificant n rest
    else match n with
      | 0 => c :: rest
      | n + 1 => dropSignificant n rest

/-- A character of a scheme after the first. -/
def isSchemeChar (c : Char) : Bool := c.isAlphanum || c == '+' || c == '-' || c == '.'

/-- The scheme, in lower case, and what follows its colon. -/
def readScheme (cs : List Char) : Option (String × List Char) :=
  match cs, cs.dropWhile isSchemeChar with
  | c :: _, ':' :: rest =>
    if c.isAlpha then some (String.ofList ((cs.takeWhile isSchemeChar).map Char.toLower), rest)
    else none
  | _, _ => none

/-- A character that ends an authority. -/
def endsAuthority (special : Bool) (c : Char) : Bool :=
  c == '/' || c == '?' || c == '#' || (special && c == '\\')

/-- The text before the last occurrence of a character and the text after it. -/
def splitLast (mark : Char) (cs : List Char) : Option (List Char × List Char) :=
  match cs.reverse.dropWhile (· ≠ mark) with
  | _ :: before => some (before.reverse, (cs.reverse.takeWhile (· ≠ mark)).reverse)
  | [] => none

/-- The name and the password of a user; an empty password counts as none. -/
def readUser (cs : List Char) : String × Option String :=
  let encode (part : List Char) : String := String.ofList (Percent.encode inUserClass part)
  let password := (cs.dropWhile (· ≠ ':')).drop 1
  (encode (cs.takeWhile (· ≠ ':')), if password.isEmpty then none else some (encode password))

/-- The number of characters before the colon of a port: one outside brackets. -/
def hostLength (inside : Bool) : List Char → Nat
  | [] => 0
  | c :: rest =>
    if c = ':' && !inside then 0
    else hostLength (c = '[' || (inside && c ≠ ']')) rest + 1

/-- A port; the usual one of the scheme and an empty one count as none.  What may follow it is
given back. -/
def readPort (scheme : String) (cs : List Char) : Except Problem (Option Nat × List Char) :=
  let ds := cs.takeWhile Char.isDigit
  let rest := cs.dropWhile Char.isDigit
  let port := ds.foldl (fun n d => n * 10 + (d.toNat - 48)) 0
  if 65536 ≤ port || !(rest.isEmpty || rest.head? = some '\\') then .error .badPort
  else .ok (if ds.isEmpty || defaultPort? scheme = some port then none else some port, rest)

/-- A host and a port, with what may follow them. -/
def readHostAndPort (scheme : String) (cs : List Char) :
    Except Problem (Host × Option Nat × List Char) := do
  let n := hostLength false cs
  let name := cs.take n
  if isSpecial scheme && name.isEmpty then .error .emptyHost
  let host ← if isSpecial scheme then readWebHost name else readOtherHost name
  match cs.drop n with
  | _ :: port =>
    if name.isEmpty then .error .emptyHost
    let (port, rest) ← readPort scheme port
    return (host, port, rest)
  | [] => return (host, none, [])

/-- An authority, with what may follow it. -/
def readAuthority (scheme : String) (cs : List Char) (atEnd : Bool) :
    Except Problem (Authority × List Char) := do
  let (user, place) := match splitLast '@' cs with
    | some (user, place) => (some user, place)
    | none => (none, cs)
  if user = some [] && place.isEmpty && !atEnd then .error .emptyHost
  let (host, port, rest) ← readHostAndPort scheme place
  let (username, password) := readUser (user.getD [])
  if host = .domain "" && (!username.isEmpty || password.isSome) then .error .emptyHost
  return (⟨username, password, host, port⟩, rest)

def readEnd (scheme : String) (cs : List Char) : Option String × Option String :=
  let query := cs.takeWhile (· ≠ '#')
  let fragment := cs.dropWhile (· ≠ '#')
  (match query with
    | '?' :: rest => some (String.ofList (Percent.encode (inQueryClass (isSpecial scheme)) rest))
    | _ => none,
   match fragment with
    | _ :: rest => some (String.ofList (Percent.encode inFragmentClass rest))
    | [] => none)

def endsPath (c : Char) : Bool := c == '?' || c == '#'

/-! ## Whole URLs -/

/-- A URL from its scheme, its authority and the text of its path, query and fragment. -/
def assemble (scheme : String) (authority : Option Authority) (cs : List Char) : Url :=
  let path := cs.takeWhile (!endsPath ·)
  let (query, fragment) := readEnd scheme (cs.dropWhile (!endsPath ·))
  let parts := if path.isEmpty && !isSpecial scheme then [] else readPath scheme path
  ⟨scheme, authority, .ofParts authority.isSome parts, query, fragment⟩

/-- A URL from what follows the two slashes before its authority. -/
def readAfterSlashes (scheme : String) (cs : List Char) : Except Problem Url := do
  let special := isSpecial scheme
  let authority := cs.takeWhile (!endsAuthority special ·)
  let rest := cs.dropWhile (!endsAuthority special ·)
  let (authority, left) ← readAuthority scheme authority rest.isEmpty
  return assemble scheme (some authority) (left ++ rest)

/-- The name of the local machine stands for no host. -/
def readFileHost (cs : List Char) : Except Problem (Option Host) :=
  if cs.isEmpty then .ok none
  else do
    let host ← readWebHost cs
    return if host = .domain "localhost" then none else some host

/-- The URL of a file from its host and the text of its path, query and fragment, which is the end
of a raw text.  A path that enters a drive leaves the host behind. -/
def assembleFile (host : Option Host) (raw cs : List Char) : Url :=
  let path := (dropSignificant ((significant raw).length - cs.length) raw).takeWhile (!endsPath ·)
  let (query, fragment) := readEnd "file" (cs.dropWhile (!endsPath ·))
  let way := (⟨[], false⟩ : Way).readPath "file" (belowRoot "file" path)
  let authority := (if way.onDrive then none else host).map fun h => ⟨"", none, h, none⟩
  ⟨"file", authority, .segments way.parts, query, fragment⟩

/-- The URL of a file, from its raw text and what follows the colon of its scheme. -/
def readFile (raw cs : List Char) : Except Problem Url :=
  match slashes true cs with
  | '/' :: '/' :: _ => do
    let cs := cs.drop 2
    let name := cs.takeWhile (!endsAuthority true ·)
    if isDrive name then return assembleFile none raw cs
    let host ← readFileHost name
    return assembleFile host raw (cs.drop name.length)
  | _ => .ok (assembleFile none raw cs)

/-- A URL of a scheme that is neither of the web nor of files. -/
def readOther (scheme : String) : List Char → Except Problem Url
  | '/' :: '/' :: rest => readAfterSlashes scheme rest
  | '/' :: rest => .ok (assemble scheme none ('/' :: rest))
  | cs =>
    let path := cs.takeWhile (!endsPath ·)
    let (query, fragment) := readEnd scheme (cs.dropWhile (!endsPath ·))
    .ok ⟨scheme, none, .plain (String.ofList (Percent.encode Percent.control path)), query,
      fragment⟩

/-- A slash, or a backslash in its place. -/
def isSlash (c : Char) : Bool := c == '/' || c == '\\'

/-- A URL from its raw text, its scheme and what follows the colon. -/
def readAfterScheme (raw : List Char) (scheme : String) (cs : List Char) : Except Problem Url :=
  if scheme = "file" then readFile raw cs
  else if isSpecial scheme then readAfterSlashes scheme (cs.dropWhile isSlash)
  else readOther scheme cs

/-- Read a URL that stands on its own. -/
def ofText (s : String) : Except Problem Url :=
  match readScheme (significant (inner s)) with
  | some (scheme, rest) => readAfterScheme (inner s) scheme rest
  | none => .error .relative

/-! ## References -/

/-- Read a reference from a web address, as seen from there. -/
def resolveRelative (base : Url) (cs : List Char) : Except Problem Url :=
  match cs with
  | [] => .ok base.withoutFragment
  | '#' :: _ => .ok { base with fragment := (readEnd base.scheme cs).2 }
  | '?' :: _ =>
    let (query, fragment) := readEnd base.scheme cs
    .ok { base with query := query, fragment := fragment }
  | c :: rest =>
    if isSlash c then
      if (rest.head?.map isSlash).getD false then
        readAfterSlashes base.scheme
          (if c = '/' && rest.head? = some '/' then rest.drop 1 else cs.dropWhile isSlash)
      else .ok (assemble base.scheme base.authority cs)
    else
      let parts := base.path.parts.dropLast
      let (query, fragment) := readEnd base.scheme (cs.dropWhile (!endsPath ·))
      .ok { base with
        path := .segments (readPathBelow base.scheme parts (cs.takeWhile (!endsPath ·)))
        query := query
        fragment := fragment }

/-- Read a reference from a web address: a URL on its own, or a way from there. -/
def resolve (base : Url) (s : String) : Except Problem Url :=
  let cs := significant (inner s)
  match readScheme cs with
  | some (scheme, rest) =>
    if scheme = base.scheme && (rest.takeWhile isSlash).length < 2 then resolveRelative base rest
    else readAfterScheme (inner s) scheme rest
  | none => resolveRelative base cs

end Ingest.Url
