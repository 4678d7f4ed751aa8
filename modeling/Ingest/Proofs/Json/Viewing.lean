import Ingest.Proofs.Json.Thorough
/-!
# Readers that make less of a value

One reader may take the same values as another one and make less of them.  A record whose fields are
read so is itself read so, whether it is given as an object or as a list.
-/

namespace Ingest.Json

/-- The reader takes what the other one takes, and makes of it what a function makes of the value
of the other one. -/
structure Reader.Views {α β : Type} (view : Reader β) (r : Reader α) (f : α → β) : Prop where
  ok_iff : ∀ {depth : Nat} {node : Node} {b : β},
    view depth node = .ok b ↔ ∃ a, r depth node = .ok a ∧ f a = b

/-- The fields have the same names, and each is read with less made of it. -/
inductive Fields.Views : {τ τ' : Type} → Fields τ' → Fields τ → (τ → τ') → Prop where
  | none : Views .none .none id
  | field {α α' β β' : Type} {name : String} {view : Reader α'} {read : Reader α} {f : α → α'}
      {rest' : Fields β'} {rest : Fields β} {g : β → β'} (absent : Option α) :
      view.Views read f → Views rest' rest g →
      Views (.field name view (absent.map f) rest') (.field name read absent rest) (Prod.map f g)

namespace Reader

variable {α β γ : Type}

theorem views_self (r : Reader α) : r.Views r id := ⟨by simp⟩

theorem Views.map {view : Reader β} {r : Reader α} {f : α → β} (h : view.Views r f) {γ' : Type}
    {after : α → γ} {after' : β → γ'} {f' : γ → γ'} (hafter : ∀ a, after' (f a) = f' (after a)) :
    Views (fun depth node => (view depth node).map after')
      (fun depth node => (r depth node).map after) f' where
  ok_iff := by
    intro depth node c
    simp only [map_eq_ok_iff, h.ok_iff]
    constructor
    · rintro ⟨_, ⟨a, ha, rfl⟩, rfl⟩
      exact ⟨after a, ⟨a, ha, rfl⟩, (hafter a).symm⟩
    · rintro ⟨_, ⟨a, ha, rfl⟩, rfl⟩
      exact ⟨f a, ⟨a, ha, rfl⟩, hafter a⟩

theorem Views.optional {view : Reader β} {r : Reader α} {f : α → β} (h : view.Views r f) :
    view.optional.Views r.optional (Option.map f) where
  ok_iff := by
    intro depth node b
    by_cases hnull : node = .null
    · subst hnull
      simp [Reader.optional, eq_comm]
    · rw [optional_of_ne_null hnull, optional_of_ne_null hnull]
      have hsome : Views (fun depth node => (view depth node).map some)
          (fun depth node => (r depth node).map some) (Option.map f) := h.map fun _ => rfl
      exact hsome.ok_iff

theorem Views.valueReadsTo_iff {view : Reader β} {r : Reader α} {f : α → β} (h : view.Views r f)
    {absent : Option α} {b : β} {depth : Nat} {members : List (Key × Node)} :
    Fields.ValueReadsTo depth view (absent.map f) b members ↔
      ∃ a, Fields.ValueReadsTo depth r absent a members ∧ f a = b := by
  match members with
  | [] => simp [Fields.ValueReadsTo]
  | [m] => exact h.ok_iff
  | m :: n :: others => simp [Fields.ValueReadsTo]

end Reader

namespace Fields

variable {τ τ' : Type} {fields : Fields τ} {view : Fields τ'} {f : τ → τ'}

theorem Views.count_eq (h : view.Views fields f) : view.count = fields.count := by
  induction h with
  | none => rfl
  | field absent _ _ ih => rw [count, count, ih]

theorem absentFrom_field_ok_iff {α β : Type} {own name : String} {read : Reader α}
    {absent : Option α} {rest : Fields β} {total index : Nat} {t : α × β} :
    (Fields.field own read absent rest).absentFrom name total index = .ok t ↔
      absent = some t.1 ∧ rest.absentFrom name total (index + 1) = .ok t.2 := by
  obtain ⟨a, as⟩ := t
  cases absent with
  | none =>
    refine iff_of_false ?_ (by simp)
    intro h
    cases h
  | some b =>
    change (rest.absentFrom name total (index + 1) >>= fun as => pure (b, as)) = .ok (a, as) ↔ _
    simp only [bind_eq_ok_iff, pure_eq_ok_iff, Prod.mk.injEq, Option.some.injEq]
    constructor
    · rintro ⟨_, hrest, rfl, rfl⟩
      exact ⟨rfl, hrest⟩
    · rintro ⟨rfl, hrest⟩
      exact ⟨as, hrest, rfl, rfl⟩

/-- Both parts of a pair come from what the parts of another pair are seen as. -/
theorem exists_prod_map {α α' β β' : Type} {f : α → α'} {g : β → β'} {P : α → Prop} {Q : β → Prop}
    {t : α' × β'} :
    (∃ a, P a ∧ f a = t.1) ∧ (∃ b, Q b ∧ g b = t.2) ↔
      ∃ whole : α × β, (P whole.1 ∧ Q whole.2) ∧ Prod.map f g whole = t := by
  constructor
  · rintro ⟨⟨a, ha, hf⟩, b, hb, hg⟩
    exact ⟨(a, b), ⟨ha, hb⟩, Prod.ext hf hg⟩
  · rintro ⟨⟨a, b⟩, ⟨ha, hb⟩, rfl⟩
    exact ⟨⟨a, ha, rfl⟩, b, hb, rfl⟩

theorem Views.readsTo_iff (h : view.Views fields f) {depth : Nat} {members : List (Key × Node)}
    {record : τ'} :
    view.ReadsTo depth members record ↔
      ∃ whole, fields.ReadsTo depth members whole ∧ f whole = record := by
  induction h generalizing members with
  | none => simp [ReadsTo]
  | @field α α' β β' name view read f rest' rest g absent hview _ ih =>
    simp only [ReadsTo, hview.valueReadsTo_iff, ih, exists_prod_map]

theorem Views.absentFrom_ok_iff (h : view.Views fields f) {name : String} {total index : Nat}
    {record : τ'} :
    view.absentFrom name total index = .ok record ↔
      ∃ whole, fields.absentFrom name total index = .ok whole ∧ f whole = record := by
  induction h generalizing index with
  | none => simp [absentFrom]
  | field absent _ _ ih =>
    simp only [absentFrom_field_ok_iff, Option.map_eq_some_iff, ih, exists_prod_map]

theorem Views.take_ok_iff (h : view.Views fields f) {name : String} {total depth index : Nat}
    {stop : Option Break} {nodes : List Node} {record : τ'} :
    view.take name total depth stop index nodes = .ok record ↔
      ∃ whole, fields.take name total depth stop index nodes = .ok whole ∧ f whole = record := by
  induction h generalizing index nodes with
  | none => exact ⟨fun hend => ⟨record, hend, rfl⟩, fun ⟨_, hend, _⟩ => hend⟩
  | @field α α' β β' own view read f rest' rest g absent hview hrest ih =>
    cases nodes with
    | nil =>
      have hfields : (Fields.field own view (absent.map f) rest').Views
          (.field own read absent rest) (Prod.map f g) := .field absent hview hrest
      simp only [take, check_eq_ok_iff, hfields.absentFrom_ok_iff, and_assoc, exists_and_left]
    | cons node nodes => simp only [take_cons_ok_iff, hview.ok_iff, ih, exists_prod_map]

end Fields

/-- A record is seen through functions if its fields are. -/
theorem Reader.views_record {τ τ' : Type} {fields : Fields τ} {view : Fields τ'} {f : τ → τ'}
    (h : view.Views fields f) (name : String) :
    (record name view).Views (record name fields) f where
  ok_iff := by
    intro depth node t
    cases node with
    | object members stop =>
      simp only [record_object_ok_iff, h.readsTo_iff, and_assoc, exists_and_left]
    | list nodes stop =>
      simp only [record_list_ok_iff, h.count_eq, h.take_ok_iff, and_assoc, exists_and_left]
    | _ =>
      refine iff_of_false ?_ ?_
      · intro h
        cases h
      · rintro ⟨_, h, -⟩
        cases h

end Ingest.Json
