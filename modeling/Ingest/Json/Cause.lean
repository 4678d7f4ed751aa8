import Ingest.Text.Quoted
/-!
# Why a JSON text is refused

The causes for which a text is not JSON, or is JSON of another shape than the one asked for, with
their category and their wording.
-/

namespace Ingest.Json

/-- What stands where a value of another kind was asked for. -/
inductive Found where
  | null
  | bool (b : Bool)
  | integer (i : Int)
  | float (digits : String)
  | text (s : String)
  | list
  | map
  deriving DecidableEq, Repr

/-- The kind of value that was asked for. -/
inductive Wanted where
  | text
  | path
  | bool
  | list
  | record (name : String)
  deriving DecidableEq, Repr

/-- The first defect of a text, in the order of the text. -/
inductive Cause where
  | endInList
  | endInObject
  | endInString
  | endInValue
  | noColon
  | noListSeparator
  | noObjectSeparator
  | noValue
  | unknownWord
  | keyNotString
  | trailingComma
  | trailingCharacters
  | badNumber
  | numberOutOfRange
  | badEscape
  | brokenSurrogatePair
  | loneSurrogate
  | controlCharacter
  | tooDeep
  | wrongKind (found : Found) (wanted : Wanted)
  | missingField (name : String)
  | duplicateField (name : String)
  | tooShort (length : Nat) (record : String) (fields : Nat)
  | noVariant (name : String)
  deriving DecidableEq, Repr

/-- The three kinds of cause: not JSON, JSON of another shape, and JSON that stops too early. -/
inductive Category where
  | grammar
  | shape
  | ending
  deriving DecidableEq, Repr

def Cause.category : Cause → Category
  | .endInList | .endInObject | .endInString | .endInValue => .ending
  | .wrongKind .. | .missingField _ | .duplicateField _ | .tooShort .. | .noVariant _ => .shape
  | _ => .grammar

/-- What was found, in words. -/
def Found.describe : Found → String
  | .null => "null"
  | .bool true => "boolean `true`"
  | .bool false => "boolean `false`"
  | .integer i => s!"integer `{i}`"
  | .float digits => s!"floating point `{digits}`"
  | .text s => s!"string {Text.quoted s}"
  | .list => "sequence"
  | .map => "map"

/-- What was asked for, in words. -/
def Wanted.describe : Wanted → String
  | .text => "a string"
  | .path => "path string"
  | .bool => "a boolean"
  | .list => "a sequence"
  | .record name => s!"struct {name}"

def Cause.message : Cause → String
  | .endInList => "EOF while parsing a list"
  | .endInObject => "EOF while parsing an object"
  | .endInString => "EOF while parsing a string"
  | .endInValue => "EOF while parsing a value"
  | .noColon => "expected `:`"
  | .noListSeparator => "expected `,` or `]`"
  | .noObjectSeparator => "expected `,` or `\x7d`"
  | .noValue => "expected value"
  | .unknownWord => "expected ident"
  | .keyNotString => "key must be a string"
  | .trailingComma => "trailing comma"
  | .trailingCharacters => "trailing characters"
  | .badNumber => "invalid number"
  | .numberOutOfRange => "number out of range"
  | .badEscape => "invalid escape"
  | .brokenSurrogatePair => "unexpected end of hex escape"
  | .loneSurrogate => "lone leading surrogate in hex escape"
  | .controlCharacter => "control character (\\u0000-\\u001F) found while parsing a string"
  | .tooDeep => "recursion limit exceeded"
  | .wrongKind found wanted => s!"invalid type: {found.describe}, expected {wanted.describe}"
  | .missingField name => s!"missing field `{name}`"
  | .duplicateField name => s!"duplicate field `{name}`"
  | .tooShort length record fields =>
    s!"invalid length {length}, expected struct {record} with {fields} elements"
  | .noVariant name => s!"data did not match any variant of untagged enum {name}"

end Ingest.Json
