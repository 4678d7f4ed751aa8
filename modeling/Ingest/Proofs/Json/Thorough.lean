import Ingest.Proofs.Json.Schema
/-!
# Readers that take no defects

What a reader makes of a list or of a record in a list is put down to its items.  From that it is
clear that no reader of a configuration takes a value with a defect in it: a value is either looked
at, and then its defects are found, or passed over, and then it may not have any.
-/

namespace Ingest.Json

namespace Fields

variable {α β : Type}

theorem take_cons_ok_iff {name record : String} {read : Reader α} {absent : Option α}
    {rest : Fields β} {total depth index : Nat} {stop : Option Break} {node : Node}
    {nodes : List Node} {t : α × β} :
    (Fields.field name read absent rest).take record total depth stop index (node :: nodes) =
        .ok t ↔
      read depth node = .ok t.1 ∧
        rest.take record total depth stop (index + 1) nodes = .ok t.2 := by
  obtain ⟨a, as⟩ := t
  simp only [take, bind_eq_ok_iff, pure_eq_ok_iff, Prod.mk.injEq]
  constructor
  · rintro ⟨_, hread, _, hrest, rfl, rfl⟩
    exact ⟨hread, hrest⟩
  · rintro ⟨hread, hrest⟩
    exact ⟨a, hread, as, hrest, rfl, rfl⟩

end Fields

namespace Reader

variable {α β τ : Type}

/-! ## Lists and records -/

theorem optional_of_ne_null {r : Reader α} {depth : Nat} {node : Node} (h : node ≠ .null) :
    r.optional depth node = (r depth node).map some := by
  unfold Reader.optional
  split
  · contradiction
  · rfl

theorem list_ok_iff {item : Reader α} {depth : Nat} {nodes : List Node} {stop : Option Break}
    {as : List α} :
    item.list depth (.list nodes stop) = .ok as ↔
      1 < depth ∧ stop = none ∧ items item (depth - 1) nodes = .ok as := by
  rw [Reader.list, unless_eq_ok_iff, bind_eq_ok_iff, Nat.not_le]
  simp only [check_eq_ok_iff, checkStop_ok_iff, pure_eq_ok_iff]
  refine and_congr_right fun _ => ?_
  constructor
  · rintro ⟨_, hitems, rfl, rfl⟩
    exact ⟨rfl, hitems⟩
  · rintro ⟨rfl, hitems⟩
    exact ⟨as, hitems, rfl, rfl⟩

theorem items_cons_ok_iff {item : Reader α} {depth : Nat} {node : Node} {nodes : List Node}
    {as : List α} :
    items item depth (node :: nodes) = .ok as ↔
      ∃ a, item depth node = .ok a ∧ ∃ others, items item depth nodes = .ok others ∧
        a :: others = as := by
  simp only [items, bind_eq_ok_iff, pure_eq_ok_iff]

theorem record_list_ok_iff {name : String} {fields : Fields τ} {depth : Nat} {nodes : List Node}
    {stop : Option Break} {t : τ} :
    record name fields depth (.list nodes stop) = .ok t ↔
      1 < depth ∧ fields.take name fields.count (depth - 1) stop 0 nodes = .ok t := by
  rw [Reader.record, unless_eq_ok_iff, Nat.not_le]

/-! ## Defects -/

structure Thorough (r : Reader α) : Prop where
  whole : ∀ {depth : Nat} {node : Node} {a : α}, r depth node = .ok a → node.Whole

theorem thorough_textAs (wanted : Wanted) : (textAs wanted).Thorough := by
  constructor
  intro depth node a hread
  cases node with
  | text content => exact .text content
  | _ => cases hread

theorem thorough_bool : Reader.bool.Thorough := by
  constructor
  intro depth node a hread
  cases node with
  | bool b => exact .bool b
  | _ => cases hread

theorem thorough_flag : flag.Thorough := by
  constructor
  intro depth node a hread
  cases node with
  | null => exact .null
  | bool b => exact .bool b
  | text content => exact .text content
  | _ =>
    obtain ⟨_, -, h⟩ := bind_eq_ok_iff.1 hread
    cases h

theorem whole_of_itemValues {depth : Nat} {nodes : List Node} {vs : List Value}
    (hitem : ∀ node ∈ nodes, ∀ depth v, node.value depth = .ok v → node.Whole)
    (h : itemValues depth nodes = .ok vs) : ∀ node ∈ nodes, node.Whole := by
  induction nodes generalizing vs with
  | nil => simp
  | cons node nodes ih =>
    rw [List.forall_mem_cons] at hitem ⊢
    obtain ⟨v, hv, hrest⟩ := bind_eq_ok_iff.1 h
    obtain ⟨others, hothers, -⟩ := bind_eq_ok_iff.1 hrest
    exact ⟨hitem.1 depth v hv, ih hitem.2 hothers⟩

theorem whole_of_memberValues {depth : Nat} {members : List (Key × Node)}
    {vs : List (String × Value)}
    (hmember : ∀ m ∈ members, ∀ depth v, m.2.value depth = .ok v → m.2.Whole)
    (h : memberValues depth members = .ok vs) : ∀ m ∈ members, m.2.Whole := by
  induction members generalizing vs with
  | nil => simp
  | cons m members ih =>
    rw [List.forall_mem_cons] at hmember ⊢
    obtain ⟨key, -, hrest⟩ := bind_eq_ok_iff.1 h
    obtain ⟨v, hv, hrest⟩ := bind_eq_ok_iff.1 hrest
    obtain ⟨others, hothers, -⟩ := bind_eq_ok_iff.1 hrest
    exact ⟨hmember.1 depth v hv, ih hmember.2 hothers⟩

theorem thorough_value : Reader.value.Thorough := by
  constructor
  intro depth node v hread
  induction node using Node.induction generalizing depth v with
  | null => exact .null
  | bool b => exact .bool b
  | number n => exact .number n
  | text content => exact .text content
  | list items stop ih =>
    simp only [Reader.value, Node.value] at hread
    split at hread
    · cases hread
    · obtain ⟨vs, hitems, hrest⟩ := bind_eq_ok_iff.1 hread
      obtain rfl := checkStop_ok_iff.1 (check_eq_ok_iff.1 hrest).1
      exact .list (whole_of_itemValues (fun item hitem _ _ => ih item hitem) hitems)
  | object members stop ih =>
    simp only [Reader.value, Node.value] at hread
    split at hread
    · cases hread
    · obtain ⟨vs, hmembers, hrest⟩ := bind_eq_ok_iff.1 hread
      obtain rfl := checkStop_ok_iff.1 (check_eq_ok_iff.1 hrest).1
      exact .object (whole_of_memberValues (fun m hm _ _ => ih m hm) hmembers)
  | broken stop => cases hread

theorem Thorough.map {r : Reader α} (h : r.Thorough) (f : α → β) :
    Thorough fun depth node => (r depth node).map f := by
  constructor
  intro depth node a hread
  obtain ⟨b, hb, -⟩ := map_eq_ok_iff.1 hread
  exact h.whole hb

theorem Thorough.optional {r : Reader α} (h : r.Thorough) : r.optional.Thorough := by
  constructor
  intro depth node a hread
  by_cases hnull : node = .null
  · subst hnull
    exact .null
  · rw [optional_of_ne_null hnull] at hread
    exact (h.map some).whole hread

theorem Thorough.orElse {r : Reader α} (h : r.Thorough) (default : α) :
    (r.orElse default).Thorough := h.optional.map (·.getD default)

theorem Thorough.items {item : Reader α} (h : item.Thorough) {depth : Nat} {nodes : List Node}
    {as : List α} (hread : items item depth nodes = .ok as) : ∀ node ∈ nodes, node.Whole := by
  induction nodes generalizing as with
  | nil => simp
  | cons node nodes ih =>
    obtain ⟨a, hnode, others, hothers, -⟩ := items_cons_ok_iff.1 hread
    exact List.forall_mem_cons.2 ⟨h.whole hnode, ih hothers⟩

theorem Thorough.list {item : Reader α} (h : item.Thorough) : item.list.Thorough := by
  constructor
  intro depth node as hread
  cases node with
  | list nodes stop =>
    obtain ⟨-, rfl, hitems⟩ := list_ok_iff.1 hread
    exact .list (h.items hitems)
  | _ => cases hread

theorem whole_of_readsTo {fields : Fields τ} {keys : Keys}
    (h : fields.Match (fun _ read _ _ _ => read.Thorough) keys)
    {depth : Nat} {members : List (Key × Node)} {record : τ}
    (hread : fields.ReadsTo depth members record) : ∀ m ∈ members, m.2.Whole := by
  induction fields generalizing keys members with
  | none => exact fun m hm => (hread m hm).2
  | field name read absent rest ih =>
    obtain _ | ⟨key, keys⟩ := keys
    · cases h
    · obtain ⟨hvalue, hrest⟩ := hread
      intro m hm
      cases hname : hasKey name m with
      | true =>
        have hmem : m ∈ members.filter (hasKey name) := List.mem_filter.2 ⟨hm, hname⟩
        match hown : members.filter (hasKey name), hvalue with
        | [], _ =>
          rw [hown] at hmem
          cases hmem
        | [n], hvalue =>
          rw [hown, List.mem_singleton] at hmem
          subst hmem
          exact h.1.2.whole hvalue
      | false => exact ih h.2 hrest m (List.mem_filter.2 ⟨hm, by simp [hname]⟩)

theorem whole_of_take {fields : Fields τ} {keys : Keys}
    (h : fields.Match (fun _ read _ _ _ => read.Thorough) keys)
    {record : String} {total depth index : Nat} {stop : Option Break} {nodes : List Node} {t : τ}
    (hread : fields.take record total depth stop index nodes = .ok t) :
    (∀ node ∈ nodes, node.Whole) ∧ stop = none := by
  induction fields generalizing keys index nodes with
  | none =>
    simp only [Fields.take] at hread
    unfold Fields.checkEnd at hread
    split at hread
    · exact ⟨by simp, rfl⟩
    all_goals cases hread
  | field name read absent rest ih =>
    obtain _ | ⟨key, keys⟩ := keys
    · cases h
    · cases nodes with
      | nil =>
        simp only [Fields.take] at hread
        exact ⟨by simp, checkStop_ok_iff.1 (check_eq_ok_iff.1 hread).1⟩
      | cons node nodes =>
        obtain ⟨hnode, hrest⟩ := Fields.take_cons_ok_iff.1 hread
        obtain ⟨hnodes, hstop⟩ := ih h.2 hrest
        exact ⟨List.forall_mem_cons.2 ⟨h.1.2.whole hnode, hnodes⟩, hstop⟩

theorem thorough_record {name : String} {fields : Fields τ} {keys : Keys}
    (h : fields.Match (fun _ read _ _ _ => read.Thorough) keys) :
    (record name fields).Thorough := by
  constructor
  intro depth node t hread
  cases node with
  | object members stop =>
    obtain ⟨-, rfl, hreads⟩ := record_object_ok_iff.1 hread
    exact .object (whole_of_readsTo h hreads)
  | list nodes stop =>
    obtain ⟨-, htake⟩ := record_list_ok_iff.1 hread
    obtain ⟨hnodes, rfl⟩ := whole_of_take h htake
    exact .list hnodes
  | _ => cases hread

end Reader

end Ingest.Json
