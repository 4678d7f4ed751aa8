import Ingest.Proofs.Json.Following
import Ingest.Proofs.Json.Joining
import Ingest.Proofs.Json.Viewing
import Mathlib.Logic.Relation
/-!
# Records read by position

In a list the values of a record stand in the order of its fields, and a list that ends early lacks
the fields that are left.  So the list is read as the object with the same values under the names of
the fields, at whatever place of the tree the record stands, and a list with more values than fields
is not read at all.
-/

namespace Ingest.Json

def namedBy (names : List String) (nodes : List Node) : List (Key × Node) :=
  List.zipWith (fun name node => (.ok name, node)) names nodes

namespace Fields

variable {τ : Type} {depth : Nat} {record : String} {total index : Nat} {nodes : List Node}

theorem length_names (fields : Fields τ) : fields.names.length = fields.count := by
  induction fields with
  | none => rfl
  | field name read absent rest ih => rw [names, List.length_cons, ih, count]

theorem filter_namedBy {name : String} {names : List String} (hname : name ∉ names)
    (nodes : List Node) :
    (namedBy names nodes).filter (hasKey name) = [] ∧
      (namedBy names nodes).filter (!hasKey name ·) = namedBy names nodes := by
  induction names generalizing nodes with
  | nil => exact ⟨rfl, rfl⟩
  | cons other names ih =>
    cases nodes with
    | nil => exact ⟨rfl, rfl⟩
    | cons node nodes =>
      rw [List.mem_cons, not_or] at hname
      obtain ⟨hown, hothers⟩ := ih hname.2 nodes
      have hne : other ≠ name := Ne.symm hname.1
      exact ⟨by simpa [namedBy, hne] using hown, by simpa [namedBy, hne] using hothers⟩

theorem absentFrom_ok_iff {fields : Fields τ} {t : τ} :
    fields.absentFrom record total index = .ok t ↔ fields.ReadsTo depth [] t := by
  induction fields generalizing index with
  | none => simp [absentFrom, ReadsTo]
  | field name read absent rest ih =>
    rw [absentFrom_field_ok_iff, ih]
    rfl

/-- A record is read from a list as from the members that have its values under the names. -/
theorem take_ok_iff {fields : Fields τ} (hnames : fields.names.Nodup) {t : τ} :
    fields.take record total depth Option.none index nodes = .ok t ↔
      nodes.length ≤ fields.count ∧ fields.ReadsTo depth (namedBy fields.names nodes) t := by
  induction fields generalizing index nodes with
  | none =>
    cases nodes with
    | nil => exact iff_of_true rfl ⟨Nat.le_refl 0, by simp [ReadsTo, namedBy]⟩
    | cons node nodes => exact iff_of_false (fun h => by cases h) (by simp [count])
  | field name read absent rest ih =>
    rw [names, List.nodup_cons] at hnames
    cases nodes with
    | nil =>
      have hend :
          (Fields.field name read absent rest).take record total depth Option.none index [] =
            (Fields.field name read absent rest).absentFrom record total index := rfl
      rw [hend]
      exact absentFrom_ok_iff.trans (and_iff_right (Nat.zero_le _)).symm
    | cons node nodes =>
      have hothers := filter_namedBy hnames.1 nodes
      have hmembers : namedBy (Fields.field name read absent rest).names (node :: nodes) =
          (.ok name, node) :: namedBy rest.names nodes := rfl
      rw [take_cons_ok_iff, ih hnames.2, hmembers, count, List.length_cons,
        Nat.add_le_add_iff_right, ReadsTo]
      simp only [List.filter_cons, hasKey_ok, decide_true, Bool.not_true, if_true,
        Bool.false_eq_true, if_false, hothers, ValueReadsTo]
      exact and_left_comm

end Fields

/-! ## Either form -/

/-- One record of the tree is a list in the first tree and an object with the same values under its
keys in the second one. -/
inductive Schema.Recast : Schema → Node → Node → Prop where
  | here {keys : Keys} {nodes : List Node} : nodes.length ≤ keys.length →
      Recast (.record keys) (.list nodes none) (.object (namedBy keys.names nodes) none)
  | item {schema : Schema} {n n' : Node} (before after : List Node) : Recast schema n n' →
      Recast (.list schema) (.list (before ++ n :: after) none) (.list (before ++ n' :: after) none)
  | member {outer : Keys} {name : String} {absence : Absence} {schema : Schema} {n n' : Node}
      (before after : List (Key × Node)) : outer.lookup name = some (absence, schema) →
      Recast schema n n' → Recast (.record outer) (.object (before ++ (.ok name, n) :: after) none)
        (.object (before ++ (.ok name, n') :: after) none)
  | position {outer : Keys} {name : String} {absence : Absence} {schema : Schema} {n n' : Node}
      (before after : List Node) : outer[before.length]? = some (name, absence, schema) →
      Recast schema n n' → Recast (.record outer) (.list (before ++ n :: after) none)
        (.list (before ++ n' :: after) none)

theorem Schema.Recast.ne_null {schema : Schema} {n n' : Node} (h : schema.Recast n n') :
    n ≠ .null ∧ n' ≠ .null := by
  cases h <;> exact ⟨Node.noConfusion, Node.noConfusion⟩

namespace Reader

variable {α β τ : Type}

structure Positional (r : Reader α) (schema : Schema) : Prop where
  recast : ∀ {n n' : Node}, schema.Recast n n' → ∀ {depth : Nat} {a : α},
    r depth n = .ok a ↔ r depth n' = .ok a
  surplus : ∀ {keys : Keys}, schema = .record keys → ∀ {nodes : List Node},
    keys.length < nodes.length → ∀ {depth : Nat} {a : α}, r depth (.list nodes none) ≠ .ok a

theorem positional_any (r : Reader α) : r.Positional .any where
  recast h := by cases h
  surplus h := by cases h

theorem Positional.map {r : Reader α} {schema : Schema} (h : r.Positional schema) (f : α → β) :
    Positional (fun depth node => (r depth node).map f) schema where
  recast hrecast := by
    intro depth b
    simp only [map_eq_ok_iff, h.recast hrecast]
  surplus hschema := by
    intro nodes hlong depth b hread
    obtain ⟨a, ha, -⟩ := map_eq_ok_iff.1 hread
    exact h.surplus hschema hlong ha

theorem Positional.optional {r : Reader α} {schema : Schema} (h : r.Positional schema) :
    r.optional.Positional schema where
  recast hrecast := by
    intro depth a
    rw [optional_of_ne_null hrecast.ne_null.1, optional_of_ne_null hrecast.ne_null.2]
    exact (h.map some).recast hrecast
  surplus hschema := by
    intro nodes hlong depth a
    exact (h.map some).surplus hschema hlong

theorem Positional.orElse {r : Reader α} {schema : Schema} (h : r.Positional schema)
    (default : α) : (r.orElse default).Positional schema := h.optional.map (·.getD default)

theorem Positional.list {item : Reader α} {schema : Schema} (h : item.Positional schema) :
    item.list.Positional (.list schema) where
  recast hrecast := by
    intro depth as
    cases hrecast with
    | item before after hrecast =>
      rw [list_ok_iff, list_ok_iff]
      refine and_congr_right fun _ => and_congr_right fun _ => ⟨fun hitems => ?_, fun hitems => ?_⟩
      · obtain ⟨a, hitem, hall⟩ := items_split hitems
        exact hall _ ((h.recast hrecast).1 hitem)
      · obtain ⟨a, hitem, hall⟩ := items_split hitems
        exact hall _ ((h.recast hrecast).2 hitem)
  surplus hschema := by cases hschema

/-- A record is read from a list as from the object with the same values, unless they are too
many. -/
theorem record_list_iff {name : String} {fields : Fields τ} (hnames : fields.names.Nodup)
    {depth : Nat} {nodes : List Node} {t : τ} :
    record name fields depth (.list nodes none) = .ok t ↔ nodes.length ≤ fields.count ∧
      record name fields depth (.object (namedBy fields.names nodes) none) = .ok t := by
  rw [record_list_ok_iff, record_object_ok_iff, Fields.take_ok_iff hnames]
  simp only [true_and]
  exact and_left_comm

theorem positional_record {name : String} {fields : Fields τ} {keys : Keys}
    (hkeys : keys.names.Nodup)
    (h : fields.Match (fun _ read _ _ schema => read.Positional schema) keys) :
    (record name fields).Positional (.record keys) := by
  have hcount : fields.count = keys.length := by
    rw [← fields.length_names, h.names_eq, Keys.names, List.length_map]
  have hlist : ∀ {depth nodes t}, record name fields depth (.list nodes none) = .ok t ↔
      nodes.length ≤ keys.length ∧
        record name fields depth (.object (namedBy keys.names nodes) none) = .ok t := by
    intro depth nodes t
    rw [record_list_iff (h.names_eq ▸ hkeys), hcount, h.names_eq]
  constructor
  · intro n n' hrecast depth t
    cases hrecast with
    | here hshort => exact hlist.trans (and_iff_right hshort)
    | member before after hname hrecast =>
      rw [record_object_ok_iff, record_object_ok_iff]
      refine and_congr_right fun _ => and_congr_right fun _ => ⟨fun hreads => ?_, fun hreads => ?_⟩
      · obtain ⟨α, read, absent, a, hread, hvalue, hall⟩ := h.member hname hreads
        exact hall _ ((hread.recast hrecast).1 hvalue)
      · obtain ⟨α, read, absent, a, hread, hvalue, hall⟩ := h.member hname hreads
        exact hall _ ((hread.recast hrecast).2 hvalue)
    | position before after hname hrecast =>
      rw [record_list_ok_iff, record_list_ok_iff]
      refine and_congr_right fun _ => ⟨fun htake => ?_, fun htake => ?_⟩
      · obtain ⟨α, read, absent, a, hread, hvalue, hall⟩ := h.position hname htake
        exact hall _ ((hread.recast hrecast).1 hvalue)
      · obtain ⟨α, read, absent, a, hread, hvalue, hall⟩ := h.position hname htake
        exact hall _ ((hread.recast hrecast).2 hvalue)
  · rintro _ ⟨⟩ nodes hlong depth t hread
    exact absurd (hlist.1 hread).1 (Nat.not_le.2 hlong)

/-- Fields with the names of the keys match them if nothing under the keys is looked at. -/
theorem match_of_flat {fields : Fields τ} {keys : Keys} (hnames : fields.names = keys.names)
    (hflat : ∀ key ∈ keys, key.2.2 = .any) :
    fields.Match (fun _ read _ _ schema => read.Positional schema) keys := by
  induction fields generalizing keys with
  | none =>
    cases keys with
    | nil => exact .nil
    | cons key keys => cases hnames
  | field name read absent rest ih =>
    obtain _ | ⟨⟨key, absence, schema⟩, keys⟩ := keys
    · cases hnames
    · rw [Fields.names, Keys.names, List.map_cons, List.cons.injEq] at hnames
      obtain ⟨rfl, hnames⟩ := hnames
      obtain ⟨hany, hothers⟩ := List.forall_mem_cons.1 hflat
      cases hany
      exact .field (positional_any read) (ih hnames hothers)

theorem positional_flat {name : String} {fields : Fields τ} {keys : Keys}
    (hnames : fields.names = keys.names) (hkeys : keys.names.Nodup)
    (hflat : ∀ key ∈ keys, key.2.2 = .any) : (record name fields).Positional (.record keys) :=
  positional_record hkeys (match_of_flat hnames hflat)

/-- Any records of the tree may be recast, in either direction. -/
theorem Positional.recasts {r : Reader α} {schema : Schema} (h : r.Positional schema) {n n' : Node}
    (hrecasts : Relation.EqvGen schema.Recast n n') {depth : Nat} {a : α} :
    r depth n = .ok a ↔ r depth n' = .ok a := by
  induction hrecasts with
  | rel _ _ hrecast => exact h.recast hrecast
  | refl _ => exact Iff.rfl
  | symm _ _ _ ih => exact ih.symm
  | trans _ _ _ _ _ ih ih' => exact ih.trans ih'

end Reader

end Ingest.Json
