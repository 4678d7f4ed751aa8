import Ingest.Json.Record
import Ingest.Proofs.Json.Spelling
/-!
# Records read by name

A record is read from an object exactly if each of its fields can be read from the members under
its name.  So neither the order of the members nor what stands under other names has a say in the
record.
-/

namespace Ingest.Json

def hasKey (name : String) (m : Key × Node) : Bool :=
  match m.1 with
  | .ok key => key = name
  | .error _ => false

@[simp] theorem hasKey_ok (name key : String) (node : Node) :
    hasKey name (.ok key, node) = decide (key = name) := rfl

@[simp] theorem hasKey_error (name : String) (e : Cause) (node : Node) :
    hasKey name (.error e, node) = false := rfl

theorem filter_hasKey_of_ne {name other : String} (h : name ≠ other)
    (members : List (Key × Node)) :
    (members.filter (!hasKey other ·)).filter (hasKey name) = members.filter (hasKey name) := by
  rw [List.filter_filter]
  refine List.filter_congr fun m _ => ?_
  obtain ⟨key, node⟩ := m
  cases key with
  | error e => rfl
  | ok key =>
    by_cases hkey : key = name
    · subst hkey
      simp [h]
    · simp [hkey]

namespace Fields

/-! ## What a record is read from -/

/-- A field has the value that is read from the members under its name.  There may be one of them at
most, and without one the field has its default. -/
def ValueReadsTo {α : Type} (depth : Nat) (read : Reader α) (absent : Option α) (a : α) :
    List (Key × Node) → Prop
  | [] => absent = some a
  | [m] => read depth m.2 = .ok a
  | _ => False

/-- The members are read to the record.  Those that are no fields have a key and no defect. -/
def ReadsTo (depth : Nat) : {τ : Type} → Fields τ → List (Key × Node) → τ → Prop
  | _, .none, members, _ => ∀ m ∈ members, (∃ key, m.1 = .ok key) ∧ m.2.Whole
  | _, .field name read absent rest, members, record =>
    ValueReadsTo depth read absent record.1 (members.filter (hasKey name)) ∧
      rest.ReadsTo depth (members.filter (!hasKey name ·)) record.2

variable {τ α β : Type} {depth : Nat}

/-! ## Filling the fields -/

def SlotFills (depth : Nat) (read : Reader α) (before after : Option α) :
    List (Key × Node) → Prop
  | [] => after = before
  | [m] => before = Option.none ∧ ∃ a, read depth m.2 = .ok a ∧ after = some a
  | _ => False

theorem slotFills_cons_iff {read : Reader α} {before after : Option α} {m : Key × Node}
    {members : List (Key × Node)} :
    SlotFills depth read before after (m :: members) ↔
      before = Option.none ∧ ∃ a, read depth m.2 = .ok a ∧
        SlotFills depth read (some a) after members := by
  match members with
  | [] => simp [SlotFills]
  | [n] => simp [SlotFills]
  | n :: o :: others => simp [SlotFills]

theorem fill_cons_ok_iff {fields : Fields τ} {m : Key × Node} {members : List (Key × Node)}
    {slots slots' : fields.Slots} :
    fields.fill depth (m :: members) slots = .ok slots' ↔
      ∃ key, m.1 = .ok key ∧ ∃ next, fields.put depth key m.2 slots = .ok next ∧
        fields.fill depth members next = .ok slots' := by
  simp only [fill, bind_eq_ok_iff]

section Field

variable {name : String} {read : Reader α} {absent : Option α} {rest : Fields β}
  {slot slot' : Option α} {others others' : rest.Slots}

def join (name : String) (read : Reader α) (absent : Option α) (slot : Option α)
    (others : rest.Slots) : (Fields.field name read absent rest).Slots := (slot, others)

theorem join_inj : join name read absent slot others = join name read absent slot' others' ↔
    slot = slot' ∧ others = others' := Prod.ext_iff

theorem exists_join (slots : (Fields.field name read absent rest).Slots) :
    ∃ slot others, slots = join name read absent slot others := ⟨slots.1, slots.2, rfl⟩

theorem put_own_ok_iff {node : Node} {next : (Fields.field name read absent rest).Slots} :
    (Fields.field name read absent rest).put depth name node (join name read absent slot others) =
        .ok next ↔
      slot = Option.none ∧ ∃ a, read depth node = .ok a ∧
        next = join name read absent (some a) others := by
  have hput : (Fields.field name read absent rest).put depth name node
      (join name read absent slot others) =
        if slot.isSome then .error (.duplicateField name)
        else read depth node >>= fun a => .ok (join name read absent (some a) others) := if_pos rfl
  rw [hput]
  cases slot with
  | some b => simp
  | none => simp [bind_eq_ok_iff, @eq_comm _ next]

theorem put_other_ok_iff {key : String} (hkey : key ≠ name) {node : Node}
    {next : (Fields.field name read absent rest).Slots} :
    (Fields.field name read absent rest).put depth key node (join name read absent slot others) =
        .ok next ↔
      ∃ others', rest.put depth key node others = .ok others' ∧
        next = join name read absent slot others' := by
  have hput : (Fields.field name read absent rest).put depth key node
      (join name read absent slot others) =
        rest.put depth key node others >>= fun others => .ok (join name read absent slot others) :=
    if_neg hkey
  simp [hput, bind_eq_ok_iff, @eq_comm _ next]

/-- The members under the name of the first field fill its slot, and the others all the rest. -/
theorem fill_field_ok_iff {members : List (Key × Node)} :
    (Fields.field name read absent rest).fill depth members (join name read absent slot others) =
        .ok (join name read absent slot' others') ↔
      SlotFills depth read slot slot' (members.filter (hasKey name)) ∧
        rest.fill depth (members.filter (!hasKey name ·)) others = .ok others' := by
  induction members generalizing slot others with
  | nil => simp [fill, SlotFills, join_inj, @eq_comm _ slot]
  | cons m members ih =>
    obtain ⟨key, node⟩ := m
    rw [fill_cons_ok_iff]
    cases key with
    | error e =>
      simp [fill_cons_ok_iff]
    | ok key =>
      by_cases hkey : key = name
      · subst hkey
        simp only [List.filter_cons, hasKey_ok, decide_true, Bool.not_true, if_true,
          Bool.false_eq_true, if_false, slotFills_cons_iff]
        constructor
        · rintro ⟨_, hk, next, hput, hfill⟩
          cases hk
          obtain ⟨rfl, a, hread, rfl⟩ := put_own_ok_iff.1 hput
          obtain ⟨hslot, hrest⟩ := ih.1 hfill
          exact ⟨⟨rfl, a, hread, hslot⟩, hrest⟩
        · rintro ⟨⟨rfl, a, hread, hslot⟩, hrest⟩
          exact ⟨key, rfl, _, put_own_ok_iff.2 ⟨rfl, a, hread, rfl⟩, ih.2 ⟨hslot, hrest⟩⟩
      · simp only [List.filter_cons, hasKey_ok, decide_eq_false hkey, Bool.not_false, if_true,
          Bool.false_eq_true, if_false, fill_cons_ok_iff]
        constructor
        · rintro ⟨_, hk, next, hput, hfill⟩
          cases hk
          obtain ⟨between, hothers, rfl⟩ := (put_other_ok_iff hkey).1 hput
          obtain ⟨hslot, hrest⟩ := ih.1 hfill
          exact ⟨hslot, key, rfl, between, hothers, hrest⟩
        · rintro ⟨hslot, _, hk, between, hothers, hrest⟩
          cases hk
          exact ⟨key, rfl, _, (put_other_ok_iff hkey).2 ⟨between, hothers, rfl⟩,
            ih.2 ⟨hslot, hrest⟩⟩

theorem finish_field_ok_iff {record : α × β} :
    (Fields.field name read absent rest).finish (join name read absent slot others) = .ok record ↔
      (slot <|> absent) = some record.1 ∧ rest.finish others = .ok record.2 := by
  have hfinish : (Fields.field name read absent rest).finish (join name read absent slot others) =
      (slot <|> absent).elim (.error (.missingField name)) fun a =>
        rest.finish others >>= fun as => .ok (a, as) := by
    simp only [finish, join]
    cases slot <|> absent <;> rfl
  obtain ⟨a, as⟩ := record
  rw [hfinish]
  cases slot <|> absent with
  | none => simp
  | some b =>
    simp only [Option.elim_some, bind_eq_ok_iff, Except.ok.injEq, Prod.mk.injEq, Option.some.injEq]
    constructor
    · rintro ⟨_, hrest, rfl, rfl⟩
      exact ⟨rfl, hrest⟩
    · rintro ⟨rfl, hrest⟩
      exact ⟨_, hrest, rfl, rfl⟩

end Field

theorem fill_none_ok_iff {members : List (Key × Node)} {slots slots' : Fields.none.Slots} :
    Fields.none.fill depth members slots = .ok slots' ↔
      ∀ m ∈ members, (∃ key, m.1 = .ok key) ∧ m.2.Whole := by
  induction members generalizing slots with
  | nil => exact iff_of_true rfl (by simp)
  | cons m members ih =>
    have hput : ∀ key next, Fields.none.put depth key m.2 slots = .ok next ↔ m.2.Whole :=
      fun key next => m.2.skip_ok_iff
    simp only [fill_cons_ok_iff, hput, ih, List.forall_mem_cons]
    constructor
    · rintro ⟨key, hkey, -, hwhole, hrest⟩
      exact ⟨⟨⟨key, hkey⟩, hwhole⟩, hrest⟩
    · rintro ⟨⟨⟨key, hkey⟩, hwhole⟩, hrest⟩
      exact ⟨key, hkey, slots', hwhole, hrest⟩

/-! ## The record -/

theorem valueReadsTo_iff {read : Reader α} {absent : Option α} {a : α}
    {members : List (Key × Node)} :
    ValueReadsTo depth read absent a members ↔
      ∃ slot, SlotFills depth read Option.none slot members ∧ (slot <|> absent) = some a := by
  match members with
  | [] => simp [ValueReadsTo, SlotFills]
  | [m] =>
    constructor
    · intro h
      exact ⟨some a, ⟨rfl, a, h, rfl⟩, rfl⟩
    · rintro ⟨_, ⟨-, b, hread, rfl⟩, ha⟩
      cases ha
      exact hread
  | m :: n :: others => simp [ValueReadsTo, SlotFills]

theorem readsTo_iff {fields : Fields τ} {members : List (Key × Node)} {record : τ} :
    fields.ReadsTo depth members record ↔
      ∃ slots, fields.fill depth members fields.empty = .ok slots ∧
        fields.finish slots = .ok record := by
  induction fields generalizing members with
  | none =>
    simp only [fill_none_ok_iff, ReadsTo]
    constructor
    · intro h
      exact ⟨(), h, rfl⟩
    · rintro ⟨-, h, -⟩
      exact h
  | field name read absent rest ih =>
    have hempty : (Fields.field name read absent rest).empty =
      join name read absent Option.none rest.empty := rfl
    rw [ReadsTo, valueReadsTo_iff, ih, hempty]
    constructor
    · rintro ⟨⟨slot, hslot, hvalue⟩, others, hfill, hfinish⟩
      exact ⟨join name read absent slot others, fill_field_ok_iff.2 ⟨hslot, hfill⟩,
        finish_field_ok_iff.2 ⟨hvalue, hfinish⟩⟩
    · rintro ⟨slots, hfill, hfinish⟩
      obtain ⟨slot, others, rfl⟩ := exists_join slots
      obtain ⟨hslot, hfill⟩ := fill_field_ok_iff.1 hfill
      obtain ⟨hvalue, hfinish⟩ := finish_field_ok_iff.1 hfinish
      exact ⟨⟨slot, hslot, hvalue⟩, others, hfill, hfinish⟩

/-! ## What does not matter -/

theorem valueReadsTo_insert_iff {read : Reader α} {absent : Option α} {a : α} {m : Key × Node}
    {before after : List (Key × Node)} :
    ValueReadsTo depth read absent a (before ++ m :: after) ↔
      (before = [] ∧ after = []) ∧ read depth m.2 = .ok a := by
  match before, after with
  | [], [] => simp [ValueReadsTo]
  | [], n :: after => simp [ValueReadsTo]
  | [n], after => simp [ValueReadsTo]
  | n :: o :: before, after => simp [ValueReadsTo]

theorem ValueReadsTo.perm {read : Reader α} {absent : Option α} {a : α}
    {members members' : List (Key × Node)} (h : ValueReadsTo depth read absent a members)
    (hperm : members.Perm members') : ValueReadsTo depth read absent a members' := by
  match members, h with
  | [], h => rwa [hperm.nil_eq] at h
  | [m], h => rwa [List.singleton_perm.1 hperm] at h

/-- The order of the members does not matter. -/
theorem ReadsTo.perm {fields : Fields τ} {members members' : List (Key × Node)} {record : τ}
    (h : fields.ReadsTo depth members record) (hperm : members.Perm members') :
    fields.ReadsTo depth members' record := by
  induction fields generalizing members members' with
  | none => exact fun m hm => h m (hperm.mem_iff.2 hm)
  | field name read absent rest ih => exact ⟨h.1.perm (hperm.filter _), ih h.2 (hperm.filter _)⟩

/-- What stands under a name that is no field's does not matter. -/
theorem readsTo_insert_iff {fields : Fields τ} {key : String} (hkey : key ∉ fields.names)
    {before after : List (Key × Node)} {node : Node} {record : τ} :
    fields.ReadsTo depth (before ++ (.ok key, node) :: after) record ↔
      node.Whole ∧ fields.ReadsTo depth (before ++ after) record := by
  induction fields generalizing before after with
  | none =>
    simp only [ReadsTo, List.forall_mem_append, List.forall_mem_cons]
    constructor
    · rintro ⟨hbefore, ⟨-, hwhole⟩, hafter⟩
      exact ⟨hwhole, hbefore, hafter⟩
    · rintro ⟨hwhole, hbefore, hafter⟩
      exact ⟨hbefore, ⟨⟨key, rfl⟩, hwhole⟩, hafter⟩
  | field name read absent rest ih =>
    rw [names, List.mem_cons, not_or] at hkey
    simp only [ReadsTo, List.filter_append, List.filter_cons, hasKey_ok, decide_eq_false hkey.1,
      Bool.not_false, Bool.false_eq_true, if_false, if_true, ih hkey.2]
    exact and_left_comm

end Fields

theorem checkStop_ok_iff {stop : Option Break} : checkStop stop = .ok () ↔ stop = none := by
  cases stop <;> simp [checkStop]

theorem Reader.record_object_ok_iff {τ : Type} {name : String} {fields : Fields τ} {depth : Nat}
    {members : List (Key × Node)} {stop : Option Break} {record : τ} :
    Reader.record name fields depth (.object members stop) = .ok record ↔
      1 < depth ∧ stop = none ∧ fields.ReadsTo (depth - 1) members record := by
  rw [Fields.readsTo_iff, Reader.record, unless_eq_ok_iff, bind_eq_ok_iff, Nat.not_le]
  simp only [check_eq_ok_iff, checkStop_ok_iff]
  refine and_congr_right fun _ => ?_
  constructor
  · rintro ⟨slots, hfill, rfl, hfinish⟩
    exact ⟨rfl, slots, hfill, hfinish⟩
  · rintro ⟨rfl, slots, hfill, hfinish⟩
    exact ⟨slots, hfill, rfl, hfinish⟩

end Ingest.Json
