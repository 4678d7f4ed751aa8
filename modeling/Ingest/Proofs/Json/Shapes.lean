import Ingest.Proofs.Json.Members
import Ingest.Proofs.Json.Record
import Ingest.Proofs.Json.Spelling
import Mathlib.Data.List.Forall2
/-!
# Values by their places

A value is known by what stands at each place of it, if its members are sorted.  What a tree says
at a place is what the value that is read from it holds there.
-/

namespace Ingest.Json

/-! ## Places -/

inductive Shape where
  | null
  | bool (b : Bool)
  | number (n : Number)
  | text (s : String)
  | list
  | object

inductive Turn where
  | item (index : Nat)
  | member (key : String)

/-- What stands at a place, found by going down to it turn by turn. -/
def shapeAt {α : Type} (shape? : α → Option Shape) (child? : Turn → α → Option α) :
    List Turn → α → Option Shape
  | [], a => shape? a
  | turn :: path, a => (child? turn a).bind (shapeAt shape? child? path)

def Node.shape? : Node → Option Shape
  | .null => some .null
  | .bool b => some (.bool b)
  | .number n => n.value.toOption.map .number
  | .text content => content.toOption.map .text
  | .list .. => some .list
  | .object .. => some .object
  | .broken _ => none

/-- Of members with one key the last one counts. -/
def Node.child? : Turn → Node → Option Node
  | .item index, .list items _ => items[index]?
  | .member key, .object members _ => (members.reverse.find? (hasKey key)).map (·.2)
  | _, _ => none

def Value.shape : Value → Shape
  | .null => .null
  | .bool b => .bool b
  | .number n => .number n
  | .text s => .text s
  | .list _ => .list
  | .object _ => .object

def Value.child? : Turn → Value → Option Value
  | .item index, .list items => items[index]?
  | .member key, .object members => members.lookup key
  | _, _ => none

/-- What a tree says at a place. -/
def Node.shapeAt (path : List Turn) (node : Node) : Option Shape :=
  Json.shapeAt Node.shape? Node.child? path node

/-- What a value holds at a place. -/
def Value.shapeAt (path : List Turn) (v : Value) : Option Shape :=
  Json.shapeAt (fun v => some v.shape) Value.child? path v

/-- The value holds at each place what the tree says there. -/
def Node.Denotes (node : Node) (v : Value) : Prop :=
  ∀ path, v.shapeAt path = node.shapeAt path

/-! ## Reading -/

theorem itemValues_ok_iff {depth : Nat} {nodes : List Node} {vs : List Value} :
    itemValues depth nodes = .ok vs ↔
      List.Forall₂ (fun node v => node.value depth = .ok v) nodes vs := by
  induction nodes generalizing vs with
  | nil =>
    rw [List.forall₂_nil_left_iff]
    exact ⟨fun h => (Except.ok.inj h).symm, fun h => congrArg Except.ok h.symm⟩
  | cons node nodes ih =>
    simp only [itemValues, bind_eq_ok_iff, ih, pure_eq_ok_iff, List.forall₂_cons_left_iff]
    constructor
    · rintro ⟨v, hv, vs, hvs, rfl⟩
      exact ⟨v, vs, hv, hvs, rfl⟩
    · rintro ⟨v, vs, hv, hvs, rfl⟩
      exact ⟨v, hv, vs, hvs, rfl⟩

def MemberReadsTo (depth : Nat) (m : Key × Node) (entry : String × Value) : Prop :=
  m.1 = .ok entry.1 ∧ m.2.value depth = .ok entry.2

theorem memberValues_ok_iff {depth : Nat} {members : List (Key × Node)}
    {entries : List (String × Value)} :
    memberValues depth members = .ok entries ↔
      List.Forall₂ (MemberReadsTo depth) members entries := by
  induction members generalizing entries with
  | nil =>
    rw [List.forall₂_nil_left_iff]
    exact ⟨fun h => (Except.ok.inj h).symm, fun h => congrArg Except.ok h.symm⟩
  | cons m members ih =>
    obtain ⟨key, node⟩ := m
    simp only [memberValues, bind_eq_ok_iff, ih, pure_eq_ok_iff, List.forall₂_cons_left_iff]
    constructor
    · rintro ⟨k, hk, v, hv, entries, hentries, rfl⟩
      exact ⟨(k, v), entries, ⟨hk, hv⟩, hentries, rfl⟩
    · rintro ⟨⟨k, v⟩, entries, ⟨hk, hv⟩, hentries, rfl⟩
      exact ⟨k, hk, v, hv, entries, hentries, rfl⟩

theorem value_list_ok_iff {depth : Nat} {items : List Node} {stop : Option Break} {v : Value} :
    (Node.list items stop).value depth = .ok v ↔ 1 < depth ∧ stop = none ∧
      ∃ vs, itemValues (depth - 1) items = .ok vs ∧ v = .list vs := by
  simp only [Node.value, unless_eq_ok_iff, Nat.not_le, bind_eq_ok_iff, pure_eq_ok_iff]
  constructor
  · rintro ⟨hdepth, vs, hvs, ⟨⟩, hstop, rfl⟩
    exact ⟨hdepth, checkStop_ok_iff.1 hstop, vs, hvs, rfl⟩
  · rintro ⟨hdepth, hstop, vs, hvs, rfl⟩
    exact ⟨hdepth, vs, hvs, (), checkStop_ok_iff.2 hstop, rfl⟩

theorem value_object_ok_iff {depth : Nat} {members : List (Key × Node)} {stop : Option Break}
    {v : Value} :
    (Node.object members stop).value depth = .ok v ↔ 1 < depth ∧ stop = none ∧
      ∃ entries, memberValues (depth - 1) members = .ok entries ∧ v = .ofMembers entries := by
  simp only [Node.value, unless_eq_ok_iff, Nat.not_le, bind_eq_ok_iff, pure_eq_ok_iff]
  constructor
  · rintro ⟨hdepth, entries, hentries, ⟨⟩, hstop, rfl⟩
    exact ⟨hdepth, checkStop_ok_iff.1 hstop, entries, hentries, rfl⟩
  · rintro ⟨hdepth, hstop, entries, hentries, rfl⟩
    exact ⟨hdepth, entries, hentries, (), checkStop_ok_iff.2 hstop, rfl⟩

theorem shape?_of_value {depth : Nat} {node : Node} {v : Value} (h : node.value depth = .ok v) :
    node.shape? = some v.shape := by
  cases node with
  | null | bool =>
    cases h
    rfl
  | number n =>
    obtain ⟨number, hnumber, rfl⟩ := map_eq_ok_iff.1 h
    rw [Node.shape?, hnumber]
    rfl
  | text content =>
    obtain ⟨s, rfl, rfl⟩ := map_eq_ok_iff.1 h
    rfl
  | list items stop =>
    obtain ⟨-, -, vs, -, rfl⟩ := value_list_ok_iff.1 h
    rfl
  | object members stop =>
    obtain ⟨-, -, entries, -, rfl⟩ := value_object_ok_iff.1 h
    rfl
  | broken stop => cases h

theorem getElem?_of_forall₂ {α β : Type} {R : α → β → Prop} {as : List α} {bs : List β}
    (h : List.Forall₂ R as bs) (index : Nat) : Option.Rel R as[index]? bs[index]? := by
  induction h generalizing index with
  | nil => exact .none
  | cons hab _ ih =>
    cases index with
    | zero => exact .some hab
    | succ index => exact ih index

theorem lookup_of_forall₂ {depth : Nat} {members : List (Key × Node)}
    {entries : List (String × Value)} (h : List.Forall₂ (MemberReadsTo depth) members entries)
    (key : String) : Option.Rel (fun node v => node.value depth = .ok v)
      ((members.find? (hasKey key)).map (·.2)) (entries.lookup key) := by
  induction h with
  | nil => exact .none
  | @cons m entry _ _ hm _ ih =>
    obtain ⟨_, node⟩ := m
    obtain ⟨k, v⟩ := entry
    obtain ⟨rfl, hvalue⟩ := hm
    rw [List.find?_cons, hasKey_ok, Value.lookup_cons key k]
    by_cases h : key = k
    · rw [if_pos h, decide_eq_true h.symm]
      exact .some hvalue
    · rw [if_neg h, decide_eq_false (Ne.symm h)]
      exact ih

theorem exists_of_mem_right {α β : Type} {R : α → β → Prop} {as : List α} {bs : List β}
    (h : List.Forall₂ R as bs) {b : β} (hb : b ∈ bs) : ∃ a ∈ as, R a b := by
  obtain ⟨index, hindex⟩ := List.getElem?_of_mem hb
  have hrel := getElem?_of_forall₂ h index
  rw [hindex] at hrel
  cases ha : as[index]? with
  | none =>
    rw [ha] at hrel
    cases hrel
  | some a =>
    rw [ha] at hrel
    cases hrel
    exact ⟨a, List.mem_of_getElem? ha, ‹_›⟩

theorem child?_of_value {depth : Nat} {node : Node} {v : Value} (h : node.value depth = .ok v)
    (turn : Turn) : Option.Rel (fun node v => node.value (depth - 1) = .ok v)
      (node.child? turn) (v.child? turn) := by
  cases node with
  | null | bool =>
    cases h
    cases turn <;> exact .none
  | number n =>
    obtain ⟨number, -, rfl⟩ := map_eq_ok_iff.1 h
    cases turn <;> exact .none
  | text content =>
    obtain ⟨s, -, rfl⟩ := map_eq_ok_iff.1 h
    cases turn <;> exact .none
  | list items stop =>
    obtain ⟨-, -, vs, hvs, rfl⟩ := value_list_ok_iff.1 h
    cases turn with
    | item index => exact getElem?_of_forall₂ (itemValues_ok_iff.1 hvs) index
    | member key => exact .none
  | object members stop =>
    obtain ⟨-, -, entries, hentries, rfl⟩ := value_object_ok_iff.1 h
    cases turn with
    | item index => exact .none
    | member key =>
      have hreversed := List.forall₂_reverse_iff.2 (memberValues_ok_iff.1 hentries)
      have hlast := lookup_of_forall₂ hreversed key
      rwa [← Value.lookup_sortMembers] at hlast
  | broken stop => cases h

/-- What is read holds at each place what the tree says there. -/
theorem denotes_of_value {depth : Nat} {node : Node} {v : Value} (h : node.value depth = .ok v) :
    node.Denotes v := by
  intro path
  induction path generalizing depth node v with
  | nil => exact (shape?_of_value h).symm
  | cons turn path ih =>
    have hchild := child?_of_value h turn
    unfold Node.shapeAt Value.shapeAt Json.shapeAt
    cases hnode : node.child? turn <;> cases hv : v.child? turn <;> rw [hnode, hv] at hchild <;>
      cases hchild
    · rfl
    · exact ih ‹_›

/-! ## Values with their members in order -/

namespace Value

/-- The members of objects are sorted, wherever they stand. -/
inductive Ordered : Value → Prop where
  | null : Ordered .null
  | bool (b : Bool) : Ordered (.bool b)
  | number (n : Number) : Ordered (.number n)
  | text (s : String) : Ordered (.text s)
  | list {items : List Value} : (∀ v ∈ items, Ordered v) → Ordered (.list items)
  | object {members : List (String × Value)} : IsSorted members →
      (∀ m ∈ members, Ordered m.2) → Ordered (.object members)

theorem ordered_of_value {depth : Nat} {node : Node} {v : Value} (h : node.value depth = .ok v) :
    v.Ordered := by
  induction node using Node.induction generalizing depth v with
  | null =>
    cases h
    exact .null
  | bool b =>
    cases h
    exact .bool b
  | number n =>
    obtain ⟨number, -, rfl⟩ := map_eq_ok_iff.1 h
    exact .number number
  | text content =>
    obtain ⟨s, -, rfl⟩ := map_eq_ok_iff.1 h
    exact .text s
  | list items stop ih =>
    obtain ⟨-, -, vs, hvs, rfl⟩ := value_list_ok_iff.1 h
    refine .list fun v hv => ?_
    obtain ⟨node, hnode, hvalue⟩ := exists_of_mem_right (itemValues_ok_iff.1 hvs) hv
    exact ih node hnode hvalue
  | object members stop ih =>
    obtain ⟨-, -, entries, hentries, rfl⟩ := value_object_ok_iff.1 h
    refine .object (isSorted_sortMembers entries) fun entry hentry => ?_
    obtain ⟨m, hm, -, hvalue⟩ :=
      exists_of_mem_right (memberValues_ok_iff.1 hentries) (mem_of_mem_sortMembers hentry)
    exact ih m hm hvalue
  | broken stop => cases h

theorem eq_of_shapeAt_bind {v? w? : Option Value}
    (hsame : ∀ v ∈ v?, ∀ w ∈ w?, (∀ path, v.shapeAt path = w.shapeAt path) → v = w)
    (hshapes : ∀ path, v?.bind (shapeAt path) = w?.bind (shapeAt path)) : v? = w? := by
  cases v? with
  | none =>
    cases w? with
    | none => rfl
    | some w => cases hshapes []
  | some v =>
    cases w? with
    | none => cases hshapes []
    | some w => rw [hsame v rfl w rfl hshapes]

theorem mem_of_lookup {key : String} {v : Value} {members : List (String × Value)}
    (h : members.lookup key = some v) : (key, v) ∈ members := by
  obtain ⟨before, after, rfl, -⟩ := List.lookup_eq_some_iff.1 h
  exact List.mem_append_right _ List.mem_cons_self

/-- Values that hold the same at all places are the same. -/
theorem Ordered.eq_of_shapeAt {v w : Value} (hv : v.Ordered) (hw : w.Ordered)
    (h : ∀ path, v.shapeAt path = w.shapeAt path) : v = w := by
  induction hv generalizing w with
  | null | bool | number | text =>
    have hshape := Option.some.inj (h [])
    cases hw <;> cases hshape
    rfl
  | @list items _ ih =>
    have hshape := Option.some.inj (h [])
    cases hw <;> cases hshape
    rename_i others hothers
    congr 1
    refine List.ext_getElem? fun index => ?_
    refine eq_of_shapeAt_bind (fun v hv w hw => ?_) fun path => h (.item index :: path)
    exact ih v (List.mem_of_getElem? hv) (hothers w (List.mem_of_getElem? hw))
  | @object members hsorted _ ih =>
    have hshape := Option.some.inj (h [])
    cases hw <;> cases hshape
    rename_i others hsorted' hothers
    congr 1
    refine hsorted.eq_of_lookup hsorted' fun key => ?_
    refine eq_of_shapeAt_bind (fun v hv w hw => ?_) fun path => h (.member key :: path)
    exact ih _ (mem_of_lookup hv) (hothers _ (mem_of_lookup hw))

end Value

end Ingest.Json
