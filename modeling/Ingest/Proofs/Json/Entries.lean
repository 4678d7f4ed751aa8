import Ingest.Proofs.Json.Thorough
/-!
# Entries of a record

What a field of a record is read from: the member under its name in an object, the item at its
place in a list.  A field is read from its entry whether the record is an object or a list, and has
its default if there is none; so what a reader never gives, and is no default, is in no record.
-/

namespace Ingest.Json

def Node.entryAt? (node : Node) (place : Nat) (name : String) : Option Node :=
  match node with
  | .object members _ => (members.find? (hasKey name)).map (·.2)
  | .list items _ => items[place]?
  | _ => none

variable {α β τ : Type} {depth : Nat}

/-- A value is read from an entry, and is the default if there is no entry. -/
def Reader.ReadsEntry (read : Reader α) (absent : Option α) (depth : Nat) (a : α) :
    Option Node → Prop
  | none => absent = some a
  | some node => read depth node = .ok a

namespace Fields

def ReadFrom (depth : Nat) (entry : Nat → String → Option Node) :
    {τ : Type} → Fields τ → Nat → τ → Prop
  | _, .none, _, _ => True
  | _, .field name read absent rest, place, record =>
    read.ReadsEntry absent depth record.1 (entry place name) ∧
      rest.ReadFrom depth entry (place + 1) record.2

/-! ## Objects -/

theorem readsEntry_of_valueReadsTo {read : Reader α} {absent : Option α} {a : α} {name : String}
    {members : List (Key × Node)} {stop : Option Break} {place : Nat}
    (h : ValueReadsTo depth read absent a (members.filter (hasKey name))) :
    read.ReadsEntry absent depth a (Node.entryAt? (.object members stop) place name) := by
  have hfind : members.find? (hasKey name) = (members.filter (hasKey name)).head? :=
    List.head?_filter.symm
  change read.ReadsEntry absent depth a ((members.find? (hasKey name)).map (·.2))
  rw [hfind]
  match members.filter (hasKey name), h with
  | [], h => exact h
  | [m], h => exact h

/-- The fields are read from the members that the fields before them have left over, and those
under their names are all among them. -/
theorem readFrom_of_readsTo {fields : Fields τ} {members left : List (Key × Node)}
    {stop : Option Break} {place : Nat} {record : τ} (hnames : fields.names.Nodup)
    (hleft : ∀ name ∈ fields.names, left.filter (hasKey name) = members.filter (hasKey name))
    (h : fields.ReadsTo depth left record) :
    fields.ReadFrom depth (Node.entryAt? (.object members stop)) place record := by
  induction fields generalizing left place with
  | none => trivial
  | field name read absent rest ih =>
    obtain ⟨hvalue, hrest⟩ := h
    obtain ⟨hnew, hnames⟩ := List.nodup_cons.1 hnames
    constructor
    · apply readsEntry_of_valueReadsTo
      rwa [← hleft name List.mem_cons_self]
    · apply ih hnames _ hrest
      intro other hother
      have hne : other ≠ name := by
        rintro rfl
        exact hnew hother
      rw [filter_hasKey_of_ne hne, hleft other (List.mem_cons_of_mem _ hother)]

/-! ## Lists -/

theorem readFrom_of_absentFrom {record : String} {total : Nat} {fields : Fields τ} {place : Nat}
    {entry : Nat → String → Option Node} {t : τ}
    (hentry : ∀ i name, entry (place + i) name = Option.none)
    (h : fields.absentFrom record total place = .ok t) : fields.ReadFrom depth entry place t := by
  induction fields generalizing place with
  | none => trivial
  | field name read absent rest ih =>
    obtain ⟨a, as⟩ := t
    cases absent with
    | none => cases h
    | some b =>
      obtain ⟨_, hb, hrest⟩ := bind_eq_ok_iff.1 h
      obtain ⟨_, hrest, heq⟩ := bind_eq_ok_iff.1 hrest
      cases hb
      cases heq
      constructor
      · rw [← Nat.add_zero place, hentry]
        rfl
      · apply ih _ hrest
        intro i name
        rw [Nat.add_assoc]
        exact hentry (1 + i) name

theorem readFrom_of_take {record : String} {total : Nat} {fields : Fields τ} {place : Nat}
    {stop : Option Break} {nodes : List Node} {entry : Nat → String → Option Node} {t : τ}
    (hentry : ∀ i name, entry (place + i) name = nodes[i]?)
    (h : fields.take record total depth stop place nodes = .ok t) :
    fields.ReadFrom depth entry place t := by
  induction fields generalizing place nodes with
  | none => trivial
  | field name read absent rest ih =>
    cases nodes with
    | nil =>
      simp only [take, check_eq_ok_iff] at h
      exact readFrom_of_absentFrom hentry h.2
    | cons node nodes =>
      obtain ⟨hread, hrest⟩ := take_cons_ok_iff.1 h
      constructor
      · rw [← Nat.add_zero place, hentry]
        exact hread
      · apply ih _ hrest
        intro i name
        rw [Nat.add_assoc, Nat.add_comm 1, hentry]
        rfl

end Fields

/-! ## Records -/

/-- The fields of a record are read from their entries. -/
theorem Reader.readFrom_of_record {name : String} {fields : Fields τ} {node : Node} {t : τ}
    (hnames : fields.names.Nodup) (h : record name fields depth node = .ok t) :
    fields.ReadFrom (depth - 1) node.entryAt? 0 t := by
  cases node with
  | object members stop =>
    obtain ⟨-, rfl, hreads⟩ := record_object_ok_iff.1 h
    exact Fields.readFrom_of_readsTo hnames (fun _ _ => rfl) hreads
  | list nodes stop =>
    obtain ⟨-, htake⟩ := record_list_ok_iff.1 h
    apply Fields.readFrom_of_take _ htake
    intro i name
    rw [Nat.zero_add]
    rfl
  | _ => cases h

/-! ## Optional values -/

namespace Reader

/-- A text that is blank is never taken for one that is given. -/
theorem ReadsEntry.not_blank {given : Option String} {entry : Option Node} {s : String}
    (h : nonBlank.ReadsEntry (some none) depth given entry) (hs : given = some s) :
    Text.isBlank s = false := by
  subst hs
  cases entry with
  | none => cases h
  | some node =>
    obtain ⟨o, -, ho⟩ := map_eq_ok_iff.1 h
    have hkept := (Option.filter_eq_some_iff.1 ho).2
    simpa using hkept

theorem optional_ok_iff {r : Reader α} {node : Node} (hnode : node ≠ .null) {given : Option α} :
    optional r depth node = .ok given ↔ ∃ a, r depth node = .ok a ∧ given = some a := by
  have hoptional : optional r depth node = (r depth node).map some := by
    rw [optional]
    exact hnode
  rw [hoptional, map_eq_ok_iff]
  exact exists_congr fun a => and_congr_right fun _ => eq_comm

theorem ReadsEntry.given {r : Reader α} {given : Option α} {entry : Option Node}
    (h : (optional r).ReadsEntry (some none) depth given entry) :
    (given = none ∧ (entry = none ∨ entry = some .null)) ∨
      ∃ node a, entry = some node ∧ node ≠ .null ∧ r depth node = .ok a ∧ given = some a := by
  cases entry with
  | none =>
    cases h
    exact .inl ⟨rfl, .inl rfl⟩
  | some node =>
    by_cases hnode : node = .null
    · subst hnode
      cases h
      exact .inl ⟨rfl, .inr rfl⟩
    · obtain ⟨a, ha, rfl⟩ := (optional_ok_iff hnode).1 h
      exact .inr ⟨node, a, rfl, hnode, ha, rfl⟩

end Reader

end Ingest.Json
