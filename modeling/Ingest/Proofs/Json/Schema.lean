import Ingest.Proofs.Json.Record
/-!
# Schemas

A schema says where records stand in a tree, under which keys their fields are found, and what may
stand in place of a member that is left out.
-/

namespace Ingest.Json

/-! ## Schemas -/

/-- What may stand in place of a member that is left out. -/
inductive Absence where
  /-- The member may not be left out. -/
  | required
  /-- The member may be left out, and nothing stands for it. -/
  | omitted
  | null
  /-- Null or an empty text. -/
  | empty
  /-- Null or a blank text. -/
  | blank
  deriving DecidableEq, Repr

def Absence.Permits : Absence → Node → Prop
  | .required, _ | .omitted, _ => False
  | _, .null => True
  | .empty, .text (.ok s) => s = ""
  | .blank, .text (.ok s) => Text.isBlank s = true
  | _, _ => False

theorem Absence.Permits.eq_null {node : Node} (h : Absence.null.Permits node) : node = .null := by
  cases node with
  | null => rfl
  | _ => cases h

theorem Absence.Permits.eq_null_or_empty {node : Node} (h : Absence.empty.Permits node) :
    node = .null ∨ node = .text (.ok "") := by
  unfold Absence.Permits at h
  split at h
  case h_3 => exact .inl rfl
  case h_4 => exact .inr (by rw [h])
  all_goals contradiction

theorem Absence.Permits.eq_null_or_blank {node : Node} (h : Absence.blank.Permits node) :
    node = .null ∨ ∃ s, node = .text (.ok s) ∧ Text.isBlank s = true := by
  unfold Absence.Permits at h
  split at h
  case h_3 => exact .inl rfl
  case h_5 => exact .inr ⟨_, rfl, h⟩
  all_goals contradiction

structure Absence.Describes {α : Type} (absence : Absence) (read : Reader α)
    (absent : Option α) : Prop where
  required : absence = .required → absent = none ∧ ∀ depth a, read depth .null ≠ .ok a
  optional : absence ≠ .required →
    ∃ a, absent = some a ∧ ∀ node, absence.Permits node → ∀ depth, read depth node = .ok a

/-- Where records stand in a tree, each with its keys in their order. -/
inductive Schema where
  | any
  | list (item : Schema)
  | record (keys : List (String × Absence × Schema))

/-- The keys of a record, each with what may stand for its absence and with what stands under it. -/
abbrev Keys := List (String × Absence × Schema)

def Keys.names (keys : Keys) : List String := keys.map (·.1)

theorem Keys.exists_lookup (keys : Keys) {name : String} (h : name ∈ keys.names) :
    ∃ key, keys.lookup name = some key := by
  induction keys with
  | nil => cases h
  | cons key keys ih =>
    obtain ⟨own, key⟩ := key
    by_cases hown : name = own
    · subst hown
      exact ⟨key, List.lookup_cons_self⟩
    · rw [List.lookup_cons, beq_false_of_ne hown]
      exact ih ((List.mem_cons.1 h).resolve_left hown)

/-- A place of a schema where the object of a record stands: the keys of the record, and the whole
tree as it depends on the members of the object.  A record around it may be given as a list. -/
inductive Schema.Place : Schema → Keys → (List (Key × Node) → Node) → Prop where
  | here (keys : Keys) : Place (.record keys) keys fun members => .object members none
  | item {schema : Schema} {keys : Keys} {tree : List (Key × Node) → Node}
      (before after : List Node) : Place schema keys tree →
      Place (.list schema) keys fun members => .list (before ++ tree members :: after) none
  | member {outer keys : Keys} {name : String} {absence : Absence} {schema : Schema}
      {tree : List (Key × Node) → Node} (before after : List (Key × Node)) :
      outer.lookup name = some (absence, schema) → Place schema keys tree →
      Place (.record outer) keys fun members =>
        .object (before ++ (.ok name, tree members) :: after) none
  | position {outer keys : Keys} {name : String} {absence : Absence} {schema : Schema}
      {tree : List (Key × Node) → Node} (before after : List Node) :
      outer[before.length]? = some (name, absence, schema) → Place schema keys tree →
      Place (.record outer) keys fun members => .list (before ++ tree members :: after) none

theorem Schema.Place.ne_null {schema : Schema} {keys : Keys} {tree : List (Key × Node) → Node}
    (h : schema.Place keys tree) (members : List (Key × Node)) : tree members ≠ .null := by
  cases h <;> exact Node.noConfusion

/-! ## Fields and keys -/

namespace Fields

def Match (P : (α : Type) → Reader α → Option α → Absence → Schema → Prop) :
    {τ : Type} → Fields τ → Keys → Prop
  | _, .none, [] => True
  | _, .field (α := α) name read absent rest, (key, absence, schema) :: keys =>
    (name = key ∧ P α read absent absence schema) ∧ rest.Match P keys
  | _, _, _ => False

variable {P Q : (α : Type) → Reader α → Option α → Absence → Schema → Prop} {τ : Type}

theorem Match.nil : Fields.none.Match P [] := trivial

theorem Match.field {α β : Type} {name : String} {read : Reader α} {absent : Option α}
    {rest : Fields β} {absence : Absence} {schema : Schema} {keys : Keys}
    (h : P α read absent absence schema) (hrest : rest.Match P keys) :
    (Fields.field name read absent rest).Match P ((name, absence, schema) :: keys) :=
  ⟨⟨rfl, h⟩, hrest⟩

theorem Match.mono (h : ∀ α read absent absence schema, P α read absent absence schema →
    Q α read absent absence schema) {fields : Fields τ} {keys : Keys}
    (hmatch : fields.Match P keys) : fields.Match Q keys := by
  induction fields generalizing keys with
  | none => cases keys <;> exact hmatch
  | field name read absent rest ih =>
    cases keys with
    | nil => exact hmatch
    | cons key keys => exact ⟨⟨hmatch.1.1, h _ _ _ _ _ hmatch.1.2⟩, ih hmatch.2⟩

theorem Match.names_eq {fields : Fields τ} {keys : Keys} (h : fields.Match P keys) :
    fields.names = keys.names := by
  induction fields generalizing keys with
  | none =>
    cases keys with
    | nil => rfl
    | cons key keys => cases h
  | field name read absent rest ih =>
    cases keys with
    | nil => cases h
    | cons key keys => rw [names, Keys.names, List.map_cons, h.1.1, ih h.2, Keys.names]

/-- A record is read from the members under one of its names and, by itself, from all others. -/
theorem Match.split {fields : Fields τ} {keys : Keys} (h : fields.Match P keys) {name : String}
    {absence : Absence} {schema : Schema} (hname : keys.lookup name = some (absence, schema)) :
    ∃ (α : Type) (read : Reader α) (absent : Option α) (value : τ → α)
      (Others : Nat → List (Key × Node) → τ → Prop), P α read absent absence schema ∧
        ∀ depth members record, fields.ReadsTo depth members record ↔
          ValueReadsTo depth read absent (value record) (members.filter (hasKey name)) ∧
            Others depth (members.filter (!hasKey name ·)) record := by
  induction fields generalizing keys with
  | none =>
    cases keys with
    | nil => cases hname
    | cons key keys => cases h
  | @field α β own read absent rest ih =>
    obtain _ | ⟨⟨key, absence', schema'⟩, keys⟩ := keys
    · cases h
    · obtain ⟨⟨rfl, hfield⟩, hrest⟩ := h
      by_cases hown : name = own
      · subst hown
        rw [List.lookup_cons_self] at hname
        cases hname
        exact ⟨α, read, absent, Prod.fst, fun depth members record =>
          rest.ReadsTo depth members record.2, hfield, fun _ _ _ => Iff.rfl⟩
      · rw [List.lookup_cons, beq_false_of_ne hown] at hname
        obtain ⟨γ, read', absent', value, Others, hP, hsplit⟩ := ih hrest hname
        refine ⟨γ, read', absent', fun record => value record.2, fun depth members record =>
          ValueReadsTo depth read absent record.1 (members.filter (hasKey own)) ∧
            Others depth (members.filter (!hasKey own ·)) record.2, hP, ?_⟩
        intro depth members record
        have hcomm : (members.filter (!hasKey own ·)).filter (!hasKey name ·) =
            (members.filter (!hasKey name ·)).filter (!hasKey own ·) := by
          simp only [List.filter_filter, Bool.and_comm]
        rw [ReadsTo, hsplit]
        dsimp only
        rw [filter_hasKey_of_ne hown, filter_hasKey_of_ne (Ne.symm hown), hcomm]
        exact and_left_comm

/-- The value of a member may be replaced by another one that is read alike. -/
theorem Match.member {fields : Fields τ} {keys : Keys} (h : fields.Match P keys) {name : String}
    {absence : Absence} {schema : Schema} (hname : keys.lookup name = some (absence, schema))
    {depth : Nat} {before after : List (Key × Node)} {node : Node} {record : τ}
    (hread : fields.ReadsTo depth (before ++ (.ok name, node) :: after) record) :
    ∃ (α : Type) (read : Reader α) (absent : Option α) (a : α), P α read absent absence schema ∧
      read depth node = .ok a ∧ ∀ node', read depth node' = .ok a →
        fields.ReadsTo depth (before ++ (.ok name, node') :: after) record := by
  obtain ⟨α, read, absent, value, Others, hP, hsplit⟩ := h.split hname
  simp only [hsplit, List.filter_append, List.filter_cons, hasKey_ok, decide_true, Bool.not_true,
    if_true, Bool.false_eq_true, if_false, valueReadsTo_insert_iff] at hread ⊢
  obtain ⟨⟨halone, hvalue⟩, hothers⟩ := hread
  exact ⟨α, read, absent, value record, hP, hvalue, fun node' h => ⟨⟨halone, h⟩, hothers⟩⟩

/-- A record has no two members under the name of one of its fields. -/
theorem Match.once {fields : Fields τ} {keys : Keys} (h : fields.Match P keys) {name : String}
    (hname : name ∈ keys.names) {depth : Nat} {members : List (Key × Node)} {record : τ}
    (hread : fields.ReadsTo depth members record) :
    (members.filter (hasKey name)).length ≤ 1 := by
  obtain ⟨⟨absence, schema⟩, hlookup⟩ := keys.exists_lookup hname
  obtain ⟨α, read, absent, value, Others, -, hsplit⟩ := h.split hlookup
  have hvalue := ((hsplit _ _ _).1 hread).1
  match members.filter (hasKey name), hvalue with
  | [], _ | [_], _ => simp

end Fields

end Ingest.Json
