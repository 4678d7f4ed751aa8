import Ingest.Json.Escape
import Ingest.Json.Node
/-!
# JSON values

Values of JSON documents whose form nothing else fixes.  The members of an object are sorted by
their keys, and of members with one key the last one counts.
-/

namespace Ingest.Json

inductive Value where
  | null
  | bool (b : Bool)
  | number (n : Number)
  | text (s : String)
  | list (items : List Value)
  | object (members : List (String × Value))

namespace Value

/-- Put a member at its place among sorted members; it replaces one with the same key. -/
def insert (key : String) (value : Value) : List (String × Value) → List (String × Value)
  | [] => [(key, value)]
  | (k, v) :: rest =>
    if key < k then (key, value) :: (k, v) :: rest
    else if key = k then (key, value) :: rest
    else (k, v) :: insert key value rest

def sortMembers (members : List (String × Value)) : List (String × Value) :=
  members.foldl (fun sorted m => insert m.1 m.2 sorted) []

def ofMembers (members : List (String × Value)) : Value := .object (sortMembers members)

/-! ## Writing -/

def commaSeparated : List String → String
  | [] => ""
  | [t] => t
  | t :: ts => t ++ "," ++ commaSeparated ts

mutual

/-- The text of a value, without spaces. -/
def render : Value → String
  | .null => "null"
  | .bool b => if b then "true" else "false"
  | .number n => n.text
  | .text s => quote s
  | .list items => "[" ++ commaSeparated (renderItems items) ++ "]"
  | .object members => "\x7b" ++ commaSeparated (renderMembers members) ++ "\x7d"

def renderItems : List Value → List String
  | [] => []
  | v :: vs => v.render :: renderItems vs

def renderMembers : List (String × Value) → List String
  | [] => []
  | (k, v) :: ms => (quote k ++ ":" ++ v.render) :: renderMembers ms

end

end Value

/-! ## Reading -/

/-- How deep lists and objects may lie in each other, with one level to spare. -/
def maxDepth : Nat := 128

/-- What a list or object comes to: its proper end, or its defect for a reader that looks at it. -/
def checkStop : Option Break → Except Cause Unit
  | none => .ok ()
  | some b => .error b.strict

mutual

def Node.value (depth : Nat) : Node → Except Cause Value
  | .null => .ok .null
  | .bool b => .ok (.bool b)
  | .number n => n.value.map .number
  | .text content => content.map .text
  | .list items stop =>
    if depth ≤ 1 then .error .tooDeep
    else do
      let vs ← itemValues (depth - 1) items
      checkStop stop
      return .list vs
  | .object members stop =>
    if depth ≤ 1 then .error .tooDeep
    else do
      let ms ← memberValues (depth - 1) members
      checkStop stop
      return .ofMembers ms
  | .broken stop => .error stop.strict

def itemValues (depth : Nat) : List Node → Except Cause (List Value)
  | [] => .ok []
  | item :: items => do
    let v ← item.value depth
    let vs ← itemValues depth items
    return v :: vs

/-- The members of an object, in the order of the text. -/
def memberValues (depth : Nat) : List (Key × Node) → Except Cause (List (String × Value))
  | [] => .ok []
  | (key, node) :: members => do
    let k ← key
    let v ← node.value depth
    let ms ← memberValues depth members
    return (k, v) :: ms

end

/-- Nothing may follow the value of a text. -/
def Document.read {α : Type} (d : Document) (root : Nat → Node → Except Cause α) :
    Except Cause α := do
  let a ← root maxDepth d.root
  if d.trailing then .error .trailingCharacters else .ok a

end Ingest.Json
