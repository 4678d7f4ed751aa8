import Ingest.Json.Defect
/-!
# Records

A record is read from an object, whose members are found by their names in any order, or from a
list, whose items are its fields in order.  Members that are no fields are passed over, and a field
may be given once only.
-/

namespace Ingest.Json

/-- The fields of a record in their order, each with its name, its reader and what stands for it
when it is absent. -/
inductive Fields : Type → Type 1 where
  | none : Fields Unit
  | field {α β : Type} (name : String) (read : Reader α) (absent : Option α) (rest : Fields β) :
      Fields (α × β)

namespace Fields

/-- The values of the fields that have been read. -/
def Slots : {τ : Type} → Fields τ → Type
  | _, .none => Unit
  | _, .field (α := α) _ _ _ rest => Option α × Slots rest

def empty : {τ : Type} → (fields : Fields τ) → fields.Slots
  | _, .none => ()
  | _, .field _ _ _ rest => (Option.none, rest.empty)

def count : {τ : Type} → Fields τ → Nat
  | _, .none => 0
  | _, .field _ _ _ rest => rest.count + 1

def names : {τ : Type} → Fields τ → List String
  | _, .none => []
  | _, .field name _ _ rest => name :: rest.names

/-- Read a member into the field of its name. -/
def put (depth : Nat) (key : String) (node : Node) :
    {τ : Type} → (fields : Fields τ) → fields.Slots → Except Cause fields.Slots
  | _, .none, _ => node.skip
  | _, .field name read _ rest, slots =>
    if key = name then
      if slots.1.isSome then .error (.duplicateField name)
      else do
        let a ← read depth node
        return (some a, slots.2)
    else do
      let others ← rest.put depth key node slots.2
      return (slots.1, others)

/-- Read members in the order of the text. -/
def fill (depth : Nat) {τ : Type} (fields : Fields τ) :
    List (Key × Node) → fields.Slots → Except Cause fields.Slots
  | [], slots => .ok slots
  | (key, node) :: members, slots => do
    let k ← key
    let slots ← fields.put depth k node slots
    fields.fill depth members slots

/-- The record; the first field that is missing and has no default is reported. -/
def finish : {τ : Type} → (fields : Fields τ) → fields.Slots → Except Cause τ
  | _, .none, _ => .ok ()
  | _, .field name _ absent rest, slots => do
    let a ← match slots.1 <|> absent with
      | some a => .ok a
      | Option.none => .error (.missingField name)
    let as ← rest.finish slots.2
    return (a, as)

/-- A record in a list that has ended before the field with the given number. -/
def absentFrom (record : String) (total : Nat) :
    {τ : Type} → (fields : Fields τ) → (index : Nat) → Except Cause τ
  | _, .none, _ => .ok ()
  | _, .field _ _ absent rest, index => do
    let a ← match absent with
      | some a => .ok a
      | Option.none => .error (.tooShort index record total)
    let as ← rest.absentFrom record total (index + 1)
    return (a, as)

/-- What may stand after the last field of a record in a list. -/
def checkEnd (items : List Node) (stop : Option Break) : Except Cause Unit :=
  match items, stop with
  | [], Option.none => .ok ()
  | [], some ⟨.trailingComma, _⟩ => .error .trailingComma
  | [], some ⟨.endInList, _⟩ => .error .endInList
  | _, _ => .error .trailingCharacters

def take (record : String) (total depth : Nat) (stop : Option Break) :
    {τ : Type} → (fields : Fields τ) → (index : Nat) → List Node → Except Cause τ
  | _, .none, _, items => checkEnd items stop
  | _, .field _ read _ rest, index, item :: items => do
    let a ← read depth item
    let as ← rest.take record total depth stop (index + 1) items
    return (a, as)
  | _, fields@(.field ..), index, [] => do
    checkStop stop
    fields.absentFrom record total index

end Fields

namespace Reader

/-- A record. -/
def record {τ : Type} (name : String) (fields : Fields τ) : Reader τ
  | depth, .object members stop =>
    if depth ≤ 1 then .error .tooDeep
    else do
      let slots ← fields.fill (depth - 1) members fields.empty
      checkStop stop
      fields.finish slots
  | depth, .list items stop =>
    if depth ≤ 1 then .error .tooDeep
    else fields.take name fields.count (depth - 1) stop 0 items
  | _, node => .error (node.mismatch (.record name))

end Reader

end Ingest.Json
