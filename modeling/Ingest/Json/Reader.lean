import Ingest.Text.Blank
import Ingest.Json.Value
/-!
# Readers for JSON trees

A reader takes a value of one kind from a tree.  What stands there instead is reported together
with the kind that was asked for, after its own defects.
-/

namespace Ingest.Json

/-- Takes a value from a tree; the number says how many levels of lists and objects are left. -/
abbrev Reader (α : Type) := Nat → Node → Except Cause α

/-- The cause for a value that is not of the kind asked for. -/
def Node.mismatch (wanted : Wanted) : Node → Cause
  | .null => .wrongKind .null wanted
  | .bool b => .wrongKind (.bool b) wanted
  | .number n =>
    match n.value with
    | .ok v => .wrongKind v.found wanted
    | .error e => e
  | .text (.ok s) => .wrongKind (.text s) wanted
  | .text (.error e) => e
  | .list .. => .wrongKind .list wanted
  | .object .. => .wrongKind .map wanted
  | .broken stop => stop.strict

namespace Reader

/-- A text, asked for under a name. -/
def textAs (wanted : Wanted) : Reader String
  | _, .text content => content
  | _, node => .error (node.mismatch wanted)

def text : Reader String := textAs .text

def path : Reader String := textAs .path

def bool : Reader Bool
  | _, .bool b => .ok b
  | _, node => .error (node.mismatch .bool)

def value : Reader Value := Node.value

def items {α : Type} (item : Reader α) (depth : Nat) : List Node → Except Cause (List α)
  | [] => .ok []
  | node :: nodes => do
    let a ← item depth node
    let as ← items item depth nodes
    return a :: as

def list {α : Type} (item : Reader α) : Reader (List α)
  | depth, .list nodes stop =>
    if depth ≤ 1 then .error .tooDeep
    else do
      let as ← items item (depth - 1) nodes
      checkStop stop
      return as
  | _, node => .error (node.mismatch .list)

/-- A value that may be null. -/
def optional {α : Type} (r : Reader α) : Reader (Option α)
  | _, .null => .ok none
  | depth, node => (r depth node).map some

/-- A value that null stands in for by a default. -/
def orElse {α : Type} (default : α) (r : Reader α) : Reader α := fun depth node =>
  (optional r depth node).map (·.getD default)

/-- A text that counts only if it is not blank. -/
def nonBlank : Reader (Option String) := fun depth node =>
  (optional text depth node).map (·.filter (!Text.isBlank ·))

/-- A truth value or a text, as a text. -/
def flag : Reader String
  | _, .null => .ok ""
  | _, .bool b => .ok (if b then "true" else "false")
  | _, .text content => content
  | depth, node => do
    let _ ← node.value depth
    .error (.noVariant "Flag")

def read {α : Type} (r : Reader α) (s : String) : Except Cause α := (Document.ofText s).read r

end Reader

end Ingest.Json
