import Ingest.Proofs.Json.Shapes
import Mathlib.Data.List.Nodup
import Mathlib.Logic.Relation
/-!
# The order of members

Trees that differ in the order of members only, and in how numbers are written, say the same at each
place.  So they are read as one value.
-/

namespace Ingest.Json.Node

/-! ## Changes -/

/-- A tree is changed in one place: members with keys that differ come in another order, or a number
is written in another way. -/
inductive Rearranges : Node → Node → Prop where
  | members {members members' : List (Key × Node)} {stop : Option Break} :
      members.Perm members' → (members.map (·.1)).Nodup →
      Rearranges (.object members stop) (.object members' stop)
  | number {n n' : Numeral} : n.value = n'.value → Rearranges (.number n) (.number n')
  | item {before after : List Node} {node node' : Node} {stop : Option Break} :
      Rearranges node node' →
      Rearranges (.list (before ++ node :: after) stop) (.list (before ++ node' :: after) stop)
  | member {before after : List (Key × Node)} {key : Key} {node node' : Node}
      {stop : Option Break} : Rearranges node node' →
      Rearranges (.object (before ++ (key, node) :: after) stop)
        (.object (before ++ (key, node') :: after) stop)

def SameUpToOrder : Node → Node → Prop := Relation.ReflTransGen Rearranges

/-! ## Members under a key -/

theorem eq_of_hasKey {key : String} {m : Key × Node} (h : hasKey key m = true) : m.1 = .ok key := by
  obtain ⟨k, node⟩ := m
  cases k with
  | error e => cases h
  | ok k => rw [of_decide_eq_true h]

theorem filter_hasKey_cases {members : List (Key × Node)} (h : (members.map (·.1)).Nodup)
    (key : String) :
    members.filter (hasKey key) = [] ∨ ∃ m, members.filter (hasKey key) = [m] := by
  have hkeys : ((members.filter (hasKey key)).map (·.1)).Nodup :=
    h.sublist (List.filter_sublist.map _)
  have hall : ∀ m ∈ members.filter (hasKey key), m.1 = .ok key :=
    fun m hm => eq_of_hasKey (List.mem_filter.1 hm).2
  match members.filter (hasKey key), hkeys, hall with
  | [], _, _ => exact .inl rfl
  | [m], _, _ => exact .inr ⟨m, rfl⟩
  | m :: n :: others, hkeys, hall =>
    have hsame : m.1 = n.1 := (hall m (by simp)).trans (hall n (by simp)).symm
    simp [hsame] at hkeys

/-- Where no key is repeated, the order of members does not matter. -/
theorem find?_hasKey_perm {members members' : List (Key × Node)} (h : members.Perm members')
    (hkeys : (members.map (·.1)).Nodup) (key : String) :
    members.find? (hasKey key) = members'.find? (hasKey key) := by
  have hfilter := h.filter (hasKey key)
  rw [← List.head?_filter, ← List.head?_filter]
  rcases filter_hasKey_cases hkeys key with hnone | ⟨m, hm⟩
  · rw [hnone] at hfilter ⊢
    rw [hfilter.nil_eq]
  · rw [hm] at hfilter ⊢
    rw [hfilter.singleton_eq]

theorem find?_of_forall₂ {α β : Type} {R : α → β → Prop} {p : α → Bool} {q : β → Bool}
    (hpq : ∀ a b, R a b → p a = q b) {as : List α} {bs : List β} (h : List.Forall₂ R as bs) :
    Option.Rel R (as.find? p) (bs.find? q) := by
  induction h with
  | nil => exact .none
  | @cons a b _ _ hab _ ih =>
    rw [List.find?_cons, List.find?_cons, hpq a b hab]
    cases q b with
    | true => exact .some hab
    | false => exact ih

theorem forall₂_replace {α : Type} {R : α → α → Prop} [Std.Refl R] (before after : List α)
    {a b : α} (h : R a b) : List.Forall₂ R (before ++ a :: after) (before ++ b :: after) :=
  List.rel_append (List.forall₂_refl before) (.cons h (List.forall₂_refl after))

/-! ## What is said at a place -/

def SameKey (m m' : Key × Node) : Prop := m.1 = m'.1 ∧ Relation.ReflGen Rearranges m.2 m'.2

instance : Std.Refl SameKey := ⟨fun _ => ⟨rfl, .refl⟩⟩

theorem SameKey.hasKey_eq (key : String) (m m' : Key × Node) (h : SameKey m m') :
    hasKey key m = hasKey key m' := by
  rw [hasKey, hasKey, h.1]

theorem Rearranges.shape? {node node' : Node} (h : Rearranges node node') :
    node.shape? = node'.shape? := by
  cases h with
  | members | item | member => rfl
  | number hvalue => rw [Node.shape?, Node.shape?, hvalue]

theorem Rearranges.child? {node node' : Node} (h : Rearranges node node') (turn : Turn) :
    Option.Rel (Relation.ReflGen Rearranges) (node.child? turn) (node'.child? turn) := by
  cases turn with
  | item index =>
    cases h with
    | members | number | member => exact .none
    | @item before after node node' stop hchild =>
      exact getElem?_of_forall₂ (forall₂_replace before after (.single hchild)) index
  | member key =>
    cases h with
    | number | item => exact .none
    | @members members members' stop hperm hkeys =>
      have hperm' : members.reverse.Perm members'.reverse :=
        (List.reverse_perm members).trans (hperm.trans (List.reverse_perm members').symm)
      have hkeys' : (members.reverse.map (·.1)).Nodup := by
        rw [List.map_reverse]
        exact List.nodup_reverse.2 hkeys
      have hfind := find?_hasKey_perm hperm' hkeys' key
      rw [Node.child?, Node.child?, hfind]
      cases (members'.reverse.find? (hasKey key)).map (·.2) with
      | none => exact .none
      | some node => exact .some .refl
    | @member before after k node node' stop hchild =>
      have hmembers := List.rel_reverse (R := SameKey)
        (forall₂_replace before after (a := (k, node)) (b := (k, node')) ⟨rfl, .single hchild⟩)
      have hfind := find?_of_forall₂ (SameKey.hasKey_eq key) hmembers
      rw [Node.child?, Node.child?]
      cases hm : (before ++ (k, node) :: after).reverse.find? (hasKey key) <;>
        cases hm' : (before ++ (k, node') :: after).reverse.find? (hasKey key) <;>
          rw [hm, hm'] at hfind <;> cases hfind
      · exact .none
      · exact .some ‹SameKey _ _›.2

theorem Rearranges.shapeAt {node node' : Node} (h : Rearranges node node') (path : List Turn) :
    node.shapeAt path = node'.shapeAt path := by
  induction path generalizing node node' with
  | nil => exact h.shape?
  | cons turn path ih =>
    have hchild := h.child? turn
    unfold Node.shapeAt Json.shapeAt
    cases hnode : node.child? turn <;> cases hnode' : node'.child? turn <;>
      rw [hnode, hnode'] at hchild <;> cases hchild
    rename_i hrel
    cases hrel with
    | refl => rfl
    | single hrel => exact ih hrel

/-- Trees that are the same up to the order of members are read as one value. -/
theorem SameUpToOrder.value_eq {node node' : Node} (h : SameUpToOrder node node')
    {depth depth' : Nat} {v w : Value} (hv : node.value depth = .ok v)
    (hw : node'.value depth' = .ok w) : v = w := by
  have hshapes : ∀ path, node.shapeAt path = node'.shapeAt path := by
    intro path
    clear hv hw
    induction h with
    | refl => rfl
    | tail _ hstep ih => exact ih.trans (hstep.shapeAt path)
  refine (Value.ordered_of_value hv).eq_of_shapeAt (Value.ordered_of_value hw) fun path => ?_
  rw [denotes_of_value hv, denotes_of_value hw, hshapes]

end Ingest.Json.Node
