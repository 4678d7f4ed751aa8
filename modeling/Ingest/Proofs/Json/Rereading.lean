import Ingest.Proofs.Json.Decimals
import Ingest.Proofs.Json.Shapes
/-!
# Values that have been read, read again

The members of a value that has been read are sorted, and its numbers were read from digits.  So its
text is a document, whatever its numbers are; and where they are integral it is read as that value.
-/

namespace Ingest.Json

namespace Value

/-! ## Settled values -/

theorem settledItems_eq {items : List Value} (h : ∀ v ∈ items, v.settled = v) :
    settledItems items = items := by
  induction items with
  | nil => rfl
  | cons v vs ih =>
    rw [List.forall_mem_cons] at h
    rw [settledItems, h.1, ih h.2]

theorem settledMembers_eq {members : List (String × Value)} (h : ∀ m ∈ members, m.2.settled = m.2) :
    settledMembers members = members := by
  induction members with
  | nil => rfl
  | cons m ms ih =>
    obtain ⟨k, v⟩ := m
    rw [List.forall_mem_cons] at h
    rw [settledMembers, h.1, ih h.2]

theorem Ordered.settled_eq {v : Value} (h : v.Ordered) : v.settled = v := by
  induction h with
  | null | bool | number | text => rfl
  | list _ ih => rw [settled, settledItems_eq ih]
  | object hsorted _ ih => rw [settled, settledMembers_eq ih, ofMembers, hsorted.sortMembers_eq]

/-! ## Numbers and depth -/

/-- What is read is less deep than it may be, and its numbers are those of numerals. -/
theorem bounded_of_value {depth : Nat} {node : Node} {v : Value} (h : node.value depth = .ok v) :
    v.Bounded (fun n => ∃ m : Numeral, m.value = .ok n) (depth - 1) := by
  induction node using Node.induction generalizing depth v with
  | null =>
    cases h
    exact .null _
  | bool b =>
    cases h
    exact .bool _ b
  | number m =>
    obtain ⟨n, hn, rfl⟩ := map_eq_ok_iff.1 h
    exact .number _ ⟨m, hn⟩
  | text content =>
    obtain ⟨s, -, rfl⟩ := map_eq_ok_iff.1 h
    exact .text _ s
  | list items stop ih =>
    obtain ⟨hdepth, -, vs, hvs, rfl⟩ := value_list_ok_iff.1 h
    rw [show depth - 1 = depth - 1 - 1 + 1 by omega]
    refine .list fun v hv => ?_
    obtain ⟨node, hnode, hvalue⟩ := exists_of_mem_right (itemValues_ok_iff.1 hvs) hv
    exact ih node hnode hvalue
  | object members stop ih =>
    obtain ⟨hdepth, -, entries, hentries, rfl⟩ := value_object_ok_iff.1 h
    rw [show depth - 1 = depth - 1 - 1 + 1 by omega]
    refine .object fun entry hentry => ?_
    obtain ⟨m, hm, -, hvalue⟩ :=
      exists_of_mem_right (memberValues_ok_iff.1 hentries) (mem_of_mem_sortMembers hentry)
    exact ih m hm hvalue
  | broken stop => cases h

/-- The numbers of a value have a property if it holds of those at its places. -/
theorem Bounded.of_places {P Q : Number → Prop} {d : Nat} {v : Value} (h : v.Bounded P d)
    (hv : v.Ordered) (hQ : ∀ path n, v.shapeAt path = some (.number n) → P n → Q n) :
    v.Bounded Q d := by
  induction h with
  | null d => exact .null d
  | bool d b => exact .bool d b
  | number d hn => exact .number d (hQ [] _ rfl hn)
  | text d s => exact .text d s
  | @list d items _ ih =>
    cases hv with
    | list hitems =>
      refine .list fun v hmem => ih v hmem (hitems v hmem) fun path n hpath => ?_
      obtain ⟨index, hindex⟩ := List.getElem?_of_mem hmem
      refine hQ (.item index :: path) n ?_
      change items[index]?.bind (shapeAt path) = _
      rw [hindex]
      exact hpath
  | @object d members _ ih =>
    cases hv with
    | object hsorted hmembers =>
      refine .object fun m hmem => ih m hmem (hmembers m hmem) fun path n hpath => ?_
      refine hQ (.member m.1 :: path) n ?_
      change (members.lookup m.1).bind (shapeAt path) = _
      rw [hsorted.lookup_of_mem hmem]
      exact hpath

/-! ## Reading again -/

theorem exists_ofText_render_of_value {depth : Nat} {node : Node} {v : Value}
    (h : node.value depth = .ok v) (hdepth : depth ≤ maxDepth) :
    ∃ w, Value.ofText v.render = .ok w := by
  have hreadable := (bounded_of_value h).mono fun n ⟨m, hm⟩ => Number.isReadable_of_value hm
  exact exists_ofText_render hreadable (by unfold maxDepth at *; omega)

theorem ofText_render_of_value {depth : Nat} {node : Node} {v : Value}
    (h : node.value depth = .ok v) (hdepth : depth ≤ maxDepth)
    (hintegral : ∀ path n, node.shapeAt path = some (.number n) → n.IsIntegral) :
    Value.ofText v.render = .ok v := by
  have hordered := ordered_of_value h
  have hreadBack : v.Bounded Number.IsReadBack (depth - 1) := by
    refine (bounded_of_value h).of_places hordered fun path n hpath ⟨m, hm⟩ => ?_
    rw [denotes_of_value h path] at hpath
    exact Number.isReadBack_of_isIntegral hm (hintegral path n hpath)
  have htext := ofText_render_of_bounded hreadBack (by unfold maxDepth at *; omega)
  rwa [hordered.settled_eq] at htext

end Value

end Ingest.Json
