import Ingest.Proofs.Json.Construction
import Ingest.Proofs.Json.Thorough
/-!
# Readers that follow a schema

A reader that follows a schema sees nothing of the members of a record but the values of its fields,
at whatever place of the tree the record stands.  So the order of the members and the members that
are no fields make no difference to what is read, and an absent member makes none to what may stand
for it.
-/

namespace Ingest.Json

def Fields.HasKeys {τ : Type} (fields : Fields τ) (keys : Keys) : Prop :=
  fields.Match (fun _ read absent absence _ => absence.Describes read absent) keys

/-- What comes out hinges on a record with the keys that is read from the members. -/
def HingesOn (keys : Keys) (members : List (Key × Node)) (outcome : List (Key × Node) → Prop) :
    Prop :=
  ∃ (τ : Type) (fields : Fields τ) (depth : Nat) (record : τ), fields.HasKeys keys ∧
    fields.ReadsTo depth members record ∧
      ∀ members', fields.ReadsTo depth members' record → outcome members'

def Lacks (name : String) (members : List (Key × Node)) : Prop :=
  ∀ m ∈ members, hasKey name m = false

theorem Lacks.filter_eq {name : String} {members : List (Key × Node)} (h : Lacks name members) :
    members.filter (hasKey name) = [] :=
  List.filter_eq_nil_iff.2 fun m hm => by simp [h m hm]

/-- Without a member a record has the default of its field, and with it alone under its name what
is read from its value. -/
theorem Fields.Match.alone {P : (α : Type) → Reader α → Option α → Absence → Schema → Prop}
    {τ : Type} {fields : Fields τ} {keys : Keys} (h : fields.Match P keys) {name : String}
    {absence : Absence} {schema : Schema} (hname : keys.lookup name = some (absence, schema))
    {before after : List (Key × Node)} (hlacks : Lacks name (before ++ after)) :
    ∃ (α : Type) (read : Reader α) (absent : Option α) (value : τ → α)
      (Others : Nat → τ → Prop), P α read absent absence schema ∧ ∀ depth record,
        (fields.ReadsTo depth (before ++ after) record ↔
          absent = some (value record) ∧ Others depth record) ∧
        ∀ node, fields.ReadsTo depth (before ++ (.ok name, node) :: after) record ↔
          read depth node = .ok (value record) ∧ Others depth record := by
  obtain ⟨α, read, absent, value, Others, hP, hsplit⟩ := h.split hname
  have hnone := hlacks.filter_eq
  rw [List.filter_append, List.append_eq_nil_iff] at hnone
  refine ⟨α, read, absent, value,
    fun depth => Others depth ((before ++ after).filter (!hasKey name ·)), hP, ?_⟩
  simp only [hsplit, List.filter_append, List.filter_cons, hasKey_ok, decide_true, Bool.not_true,
    if_true, Bool.false_eq_true, if_false, hnone, List.nil_append, Fields.ValueReadsTo, true_and,
    implies_true]

/-- A record is read alike without a member and with what may stand for its absence. -/
theorem Fields.HasKeys.absent_iff {τ : Type} {fields : Fields τ} {keys : Keys}
    (h : fields.HasKeys keys) {name : String} {absence : Absence} {schema : Schema}
    (hname : keys.lookup name = some (absence, schema)) {before after : List (Key × Node)}
    (hlacks : Lacks name (before ++ after)) {node : Node} (hnode : absence.Permits node)
    {depth : Nat} {record : τ} :
    fields.ReadsTo depth (before ++ after) record ↔
      fields.ReadsTo depth (before ++ (.ok name, node) :: after) record := by
  obtain ⟨α, read, absent, value, Others, hdescribes, halone⟩ := h.alone hname hlacks
  have hoptional : absence ≠ .required := by
    rintro rfl
    exact hnode
  obtain ⟨a, rfl, hread⟩ := hdescribes.optional hoptional
  rw [(halone depth record).1, (halone depth record).2, hread node hnode depth,
    Option.some.injEq, Except.ok.injEq]

/-- No record is read without a required member, or with null in its place. -/
theorem Fields.HasKeys.required {τ : Type} {fields : Fields τ} {keys : Keys}
    (h : fields.HasKeys keys) {name : String} {schema : Schema}
    (hname : keys.lookup name = some (.required, schema)) {before after : List (Key × Node)}
    (hlacks : Lacks name (before ++ after)) {depth : Nat} {record : τ} :
    ¬fields.ReadsTo depth (before ++ after) record ∧
      ¬fields.ReadsTo depth (before ++ (.ok name, .null) :: after) record := by
  obtain ⟨α, read, absent, value, Others, hdescribes, halone⟩ := h.alone hname hlacks
  obtain ⟨rfl, hread⟩ := hdescribes.required rfl
  rw [(halone depth record).1, (halone depth record).2]
  constructor
  · rintro ⟨⟨⟩, -⟩
  · exact fun hnull => hread depth _ hnull.1

theorem HingesOn.mono {keys : Keys} {members : List (Key × Node)}
    {outcome outcome' : List (Key × Node) → Prop} (h : HingesOn keys members outcome)
    (himp : ∀ members', outcome members' → outcome' members') :
    HingesOn keys members outcome' := by
  obtain ⟨τ, fields, depth, record, hkeys, hreads, hall⟩ := h
  exact ⟨τ, fields, depth, record, hkeys, hreads, fun members' h => himp _ (hall members' h)⟩

theorem HingesOn.perm {keys : Keys} {members members' : List (Key × Node)}
    {outcome : List (Key × Node) → Prop} (h : HingesOn keys members outcome)
    (hperm : members.Perm members') : outcome members' := by
  obtain ⟨τ, fields, depth, record, -, hreads, hall⟩ := h
  exact hall _ (hreads.perm hperm)

theorem HingesOn.insert {keys : Keys} {before after : List (Key × Node)}
    {outcome : List (Key × Node) → Prop} (h : HingesOn keys (before ++ after) outcome)
    {key : String} (hkey : key ∉ keys.names) {node : Node} (hnode : node.Whole) :
    outcome (before ++ (.ok key, node) :: after) := by
  obtain ⟨τ, fields, depth, record, hkeys, hreads, hall⟩ := h
  rw [← hkeys.names_eq] at hkey
  exact hall _ ((Fields.readsTo_insert_iff hkey).2 ⟨hnode, hreads⟩)

theorem HingesOn.once {keys : Keys} {members : List (Key × Node)}
    {outcome : List (Key × Node) → Prop} (h : HingesOn keys members outcome) {name : String}
    (hname : name ∈ keys.names) : (members.filter (hasKey name)).length ≤ 1 := by
  obtain ⟨τ, fields, depth, record, hkeys, hreads, -⟩ := h
  exact hkeys.once hname hreads

section Absent

variable {keys : Keys} {name : String} {absence : Absence} {schema : Schema}
  {before after : List (Key × Node)} {outcome : List (Key × Node) → Prop}

theorem HingesOn.supply (h : HingesOn keys (before ++ after) outcome)
    (hname : keys.lookup name = some (absence, schema)) (hlacks : Lacks name (before ++ after))
    {node : Node} (hnode : absence.Permits node) :
    outcome (before ++ (.ok name, node) :: after) := by
  obtain ⟨τ, fields, depth, record, hkeys, hreads, hall⟩ := h
  exact hall _ ((hkeys.absent_iff hname hlacks hnode).1 hreads)

theorem HingesOn.leaveOut {node : Node}
    (h : HingesOn keys (before ++ (.ok name, node) :: after) outcome)
    (hname : keys.lookup name = some (absence, schema)) (hlacks : Lacks name (before ++ after))
    (hnode : absence.Permits node) : outcome (before ++ after) := by
  obtain ⟨τ, fields, depth, record, hkeys, hreads, hall⟩ := h
  exact hall _ ((hkeys.absent_iff hname hlacks hnode).2 hreads)

theorem not_hingesOn_of_required (hname : keys.lookup name = some (.required, schema))
    (hlacks : Lacks name (before ++ after)) :
    ¬HingesOn keys (before ++ after) outcome ∧
      ¬HingesOn keys (before ++ (.ok name, .null) :: after) outcome := by
  constructor
  · rintro ⟨τ, fields, depth, record, hkeys, hreads, -⟩
    exact (hkeys.required hname hlacks).1 hreads
  · rintro ⟨τ, fields, depth, record, hkeys, hreads, -⟩
    exact (hkeys.required hname hlacks).2 hreads

end Absent

namespace Reader

variable {α β τ : Type}

/-- At each place of the schema the reader looks at nothing but the record. -/
structure Follows (r : Reader α) (schema : Schema) : Prop where
  hinges : ∀ {keys : Keys} {tree : List (Key × Node) → Node}, schema.Place keys tree →
    ∀ {depth : Nat} {members : List (Key × Node)} {a : α}, r depth (tree members) = .ok a →
      HingesOn keys members fun members' => r depth (tree members') = .ok a

structure Conforms (r : Reader α) (schema : Schema) : Prop extends r.Follows schema, r.Thorough

structure Fits (α : Type) (read : Reader α) (absent : Option α) (absence : Absence)
    (schema : Schema) : Prop where
  describes : absence.Describes read absent
  conforms : read.Conforms schema

/-! ### Values -/

theorem follows_any (r : Reader α) : r.Follows .any := ⟨fun h => by cases h⟩

theorem Follows.map {r : Reader α} {schema : Schema} (h : r.Follows schema) (f : α → β) :
    Follows (fun depth node => (r depth node).map f) schema := by
  constructor
  intro keys tree hplace depth members a hread
  obtain ⟨b, hb, rfl⟩ := map_eq_ok_iff.1 hread
  exact (h.hinges hplace hb).mono fun members' h => map_eq_ok_iff.2 ⟨b, h, rfl⟩

theorem Follows.optional {r : Reader α} {schema : Schema} (h : r.Follows schema) :
    r.optional.Follows schema := by
  constructor
  intro keys tree hplace depth members a hread
  have hsome : ∀ members, r.optional depth (tree members) = (r depth (tree members)).map some :=
    fun members => optional_of_ne_null (hplace.ne_null members)
  rw [hsome] at hread
  exact ((h.map some).hinges hplace hread).mono fun members' h => (hsome members').trans h

theorem Follows.orElse {r : Reader α} {schema : Schema} (h : r.Follows schema) (default : α) :
    (r.orElse default).Follows schema := h.optional.map (·.getD default)

/-! ### Lists -/

theorem items_split {item : Reader α} {depth : Nat} {before after : List Node} {node : Node}
    {as : List α} (h : items item depth (before ++ node :: after) = .ok as) :
    ∃ a, item depth node = .ok a ∧ ∀ node', item depth node' = .ok a →
      items item depth (before ++ node' :: after) = .ok as := by
  induction before generalizing as with
  | nil =>
    obtain ⟨a, hnode, others, hothers, rfl⟩ := items_cons_ok_iff.1 h
    exact ⟨a, hnode, fun node' h => items_cons_ok_iff.2 ⟨a, h, others, hothers, rfl⟩⟩
  | cons first before ih =>
    obtain ⟨b, hfirst, others, hothers, rfl⟩ := items_cons_ok_iff.1 h
    obtain ⟨a, hnode, hall⟩ := ih hothers
    exact ⟨a, hnode, fun node' h => items_cons_ok_iff.2 ⟨b, hfirst, others, hall node' h, rfl⟩⟩

theorem Follows.list {item : Reader α} {schema : Schema} (h : item.Follows schema) :
    item.list.Follows (.list schema) := by
  constructor
  intro keys tree hplace depth members as hread
  cases hplace with
  | item before after hplace =>
    obtain ⟨hdepth, -, hitems⟩ := list_ok_iff.1 hread
    obtain ⟨a, hitem, hall⟩ := items_split hitems
    exact (h.hinges hplace hitem).mono fun members' h => list_ok_iff.2 ⟨hdepth, rfl, hall _ h⟩

end Reader

namespace Fields

variable {τ : Type}

theorem Match.position {P : (α : Type) → Reader α → Option α → Absence → Schema → Prop}
    {fields : Fields τ} {keys : Keys} (h : fields.Match P keys) {name record : String}
    {absence : Absence} {schema : Schema} {total depth index : Nat} {before after : List Node}
    (hname : keys[before.length]? = some (name, absence, schema)) {node : Node} {t : τ}
    (hread : fields.take record total depth Option.none index (before ++ node :: after) = .ok t) :
    ∃ (α : Type) (read : Reader α) (absent : Option α) (a : α), P α read absent absence schema ∧
      read depth node = .ok a ∧ ∀ node', read depth node' = .ok a →
        fields.take record total depth Option.none index (before ++ node' :: after) = .ok t := by
  induction fields generalizing keys before index with
  | none =>
    cases keys with
    | nil => cases hname
    | cons key keys => cases h
  | @field α β own read absent rest ih =>
    obtain _ | ⟨⟨key, absence', schema'⟩, keys⟩ := keys
    · cases h
    · cases before with
      | nil =>
        cases hname
        obtain ⟨hvalue, hrest⟩ := take_cons_ok_iff.1 hread
        exact ⟨α, read, absent, t.1, h.1.2, hvalue, fun node' h => take_cons_ok_iff.2 ⟨h, hrest⟩⟩
      | cons first before =>
        obtain ⟨hfirst, hrest⟩ := take_cons_ok_iff.1 hread
        obtain ⟨γ, read', absent', a, hP, hvalue, hall⟩ := ih h.2 hname hrest
        exact ⟨γ, read', absent', a, hP, hvalue, fun node' h =>
          take_cons_ok_iff.2 ⟨hfirst, hall node' h⟩⟩

end Fields

namespace Reader

variable {α τ : Type}

theorem follows_record {name : String} {fields : Fields τ} {keys : Keys}
    (h : fields.Match Fits keys) : (record name fields).Follows (.record keys) := by
  constructor
  intro inner tree hplace depth members t hread
  cases hplace with
  | here =>
    obtain ⟨hdepth, -, hreads⟩ := record_object_ok_iff.1 hread
    exact ⟨τ, fields, depth - 1, t, h.mono fun _ _ _ _ _ hfits => hfits.describes, hreads,
      fun members' h => record_object_ok_iff.2 ⟨hdepth, rfl, h⟩⟩
  | member before after hname hplace =>
    obtain ⟨hdepth, -, hreads⟩ := record_object_ok_iff.1 hread
    obtain ⟨α, read, absent, a, hfits, hvalue, hall⟩ := h.member hname hreads
    exact (hfits.conforms.hinges hplace hvalue).mono fun members' h =>
      record_object_ok_iff.2 ⟨hdepth, rfl, hall _ h⟩
  | position before after hname hplace =>
    obtain ⟨hdepth, htake⟩ := record_list_ok_iff.1 hread
    obtain ⟨α, read, absent, a, hfits, hvalue, hall⟩ := h.position hname htake
    exact (hfits.conforms.hinges hplace hvalue).mono fun members' h =>
      record_list_ok_iff.2 ⟨hdepth, hall _ h⟩

theorem conforms_record {name : String} {fields : Fields τ} {keys : Keys}
    (h : fields.Match Fits keys) : (record name fields).Conforms (.record keys) where
  toFollows := follows_record h
  toThorough := thorough_record (h.mono fun _ _ _ _ _ hfits => hfits.conforms.toThorough)

theorem Conforms.map {r : Reader α} {schema : Schema} (h : r.Conforms schema) (f : α → β) :
    Conforms (fun depth node => (r depth node).map f) schema :=
  ⟨h.toFollows.map f, h.toThorough.map f⟩

theorem Conforms.list {r : Reader α} {schema : Schema} (h : r.Conforms schema) :
    r.list.Conforms (.list schema) := ⟨h.toFollows.list, h.toThorough.list⟩

theorem Thorough.conforms {r : Reader α} (h : r.Thorough) : r.Conforms .any := ⟨follows_any r, h⟩

/-! ### Fields -/

theorem fits_textAs (wanted : Wanted) : Fits String (textAs wanted) none .required .any where
  describes := ⟨fun _ => ⟨rfl, fun depth a h => by cases h⟩, fun h => absurd rfl h⟩
  conforms := (thorough_textAs wanted).conforms

theorem describes_optional {r : Reader α} {a : α} {absence : Absence}
    (habsence : absence ≠ .required)
    (hread : ∀ node, absence.Permits node → ∀ depth, r depth node = .ok a) :
    absence.Describes r (some a) :=
  ⟨fun h => absurd h habsence, fun _ => ⟨a, rfl, hread⟩⟩

theorem fits_optional {r : Reader α} {schema : Schema} (h : r.Conforms schema) :
    Fits (Option α) r.optional (some none) .null schema where
  describes := describes_optional (by decide) fun node hnode depth => by rw [hnode.eq_null]; rfl
  conforms := ⟨h.toFollows.optional, h.toThorough.optional⟩

theorem fits_orElse {r : Reader α} {schema : Schema} (h : r.Conforms schema) (default : α) :
    Fits α (r.orElse default) (some default) .null schema where
  describes := describes_optional (by decide) fun node hnode depth => by rw [hnode.eq_null]; rfl
  conforms := ⟨h.toFollows.orElse default, h.toThorough.orElse default⟩

theorem fits_text : Fits String (text.orElse "") (some "") .empty .any where
  describes := describes_optional (by decide) fun node hnode depth => by
    rcases hnode.eq_null_or_empty with rfl | rfl <;> rfl
  conforms := ((thorough_textAs _).orElse "").conforms

theorem fits_flag : Fits String flag (some "") .empty .any where
  describes := describes_optional (by decide) fun node hnode depth => by
    rcases hnode.eq_null_or_empty with rfl | rfl <;> rfl
  conforms := thorough_flag.conforms

theorem fits_nonBlank : Fits (Option String) nonBlank (some none) .blank .any where
  describes := describes_optional (by decide) fun node hnode depth => by
    rcases hnode.eq_null_or_blank with rfl | ⟨s, rfl, hblank⟩
    · rfl
    · change Except.ok ((some s).filter (!Text.isBlank ·)) = Except.ok none
      simp [hblank]
  conforms := ((thorough_textAs _).optional.map _).conforms

/-! ### Texts -/

theorem ofText_ok_iff {r : Reader α} {s : String} {a : α} :
    r.ofText s = .ok a ↔
      r maxDepth (Document.ofText s).root = .ok a ∧ (Document.ofText s).trailing = false := by
  rw [Reader.ofText, mapError_eq_ok_iff, Reader.read, Document.read, bind_eq_ok_iff]
  simp only [unless_eq_ok_iff, Bool.not_eq_true, Except.ok.injEq]
  constructor
  · rintro ⟨_, hroot, htrailing, rfl⟩
    exact ⟨hroot, htrailing⟩
  · rintro ⟨hroot, htrailing⟩
    exact ⟨a, hroot, htrailing, rfl⟩

/-- A text that spells a tree is read as the tree is. -/
theorem ofText_ok_iff_of_spells {r : Reader α} {s : String} {n : Node} (h : Node.Spells s n)
    {a : α} : r.ofText s = .ok a ↔ r maxDepth n = .ok a := by
  rw [ofText_ok_iff, h.document]
  exact and_iff_left rfl

theorem Thorough.spells {r : Reader α} (h : r.Thorough) {s : String} {a : α}
    (hread : r.ofText s = .ok a) : ∃ n, Node.Spells s n := by
  obtain ⟨hroot, htrailing⟩ := ofText_ok_iff.1 hread
  refine ⟨_, Node.spells_iff.2 ⟨?_, h.whole hroot⟩⟩
  rw [← htrailing]

end Reader

end Ingest.Json
