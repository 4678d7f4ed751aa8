import Ingest.Proofs.Config.Acceptance
import Ingest.Proofs.Config.Keys
import Ingest.Proofs.Json.Positions
import Ingest.Repository
/-!
# Records given by position

Each section of the configurations, and the answer with an identifier, may be written as a list of
its values instead of an object.  What is read is the same, and so it is when a record inside of
another one is written in the other form.
-/

namespace Ingest

open Json

/-! ## Texts in either form -/

/-- A record with the keys is accepted alike as a list and as an object.  Values that a list leaves
out at its end are left out of the object, and none may follow the last one. -/
structure AcceptsEitherForm {γ : Type} (keys : Keys) (accept : String → Option γ) : Prop where
  agree : ∀ values : List String, (∀ v ∈ values, IsValueText v) → values.length ≤ keys.length →
    accept (listText values) = accept (objectText (keys.names.zip values))
  surplus : ∀ values : List String, (∀ v ∈ values, IsValueText v) → keys.length < values.length →
    accept (listText values) = none
  /-- Any record in the texts may have either form. -/
  nested : ∀ {s s' : String} {n n' : Node}, Node.Spells s n → Node.Spells s' n' →
    Relation.EqvGen (Schema.record keys).Recast n n' → accept s = accept s'

theorem spelled_zip {names values : List String} {nodes : List Node}
    (h : List.Forall₂ Node.Spells values nodes) :
    List.Forall₂ SpellsMember (names.zip values) (namedBy names nodes) := by
  induction h generalizing names with
  | nil => cases names <;> exact .nil
  | cons hv _ ih =>
    cases names with
    | nil => exact .nil
    | cons name names => exact .cons ⟨rfl, hv⟩ ih

/-- What is read by the positions of its values, and may have to pass a check, is accepted so. -/
theorem Json.Reader.Positional.acceptsEitherForm {α : Type} {r : Reader α} {keys : Keys}
    (h : r.Positional (.record keys)) {passes : α → Prop} {accept : String → Option α}
    (haccept : ∀ {s a}, accept s = some a ↔ r.ofText s = .ok a ∧ passes a) :
    AcceptsEitherForm keys accept := by
  have hnested : ∀ {s s' : String} {n n' : Node}, Node.Spells s n → Node.Spells s' n' →
      Relation.EqvGen (Schema.record keys).Recast n n' → accept s = accept s' := by
    intro s s' n n' hs hs' hrecasts
    refine Option.ext fun a => ?_
    rw [haccept, haccept, Reader.ofText_ok_iff_of_spells hs, Reader.ofText_ok_iff_of_spells hs',
      h.recasts hrecasts]
  refine ⟨fun values hvalues hshort => ?_, fun values hvalues hlong => ?_, hnested⟩
  · obtain ⟨nodes, hnodes⟩ := exists_spelled hvalues
    rw [hnodes.length_eq] at hshort
    exact hnested (spells_listText hnodes) (spells_objectText (spelled_zip hnodes))
      (.rel _ _ (.here hshort))
  · obtain ⟨nodes, hnodes⟩ := exists_spelled hvalues
    rw [hnodes.length_eq] at hlong
    refine Option.eq_none_iff_forall_ne_some.2 fun a ha => ?_
    have hread := (haccept.1 ha).1
    rw [Reader.ofText_ok_iff_of_spells (spells_listText hnodes)] at hread
    exact h.surplus rfl hlong hread

theorem Json.Reader.Positional.reads {α : Type} {r : Reader α} {keys : Keys}
    (h : r.Positional (.record keys)) :
    AcceptsEitherForm keys fun s => (r.ofText s).toOption := by
  have haccept : ∀ {s a}, (r.ofText s).toOption = some a ↔ r.ofText s = .ok a ∧ True :=
    toOption_eq_some_iff.trans (and_iff_left trivial).symm
  exact h.acceptsEitherForm haccept

/-! ## Imports -/

open Json.Reader in
theorem ProviderSection.positional_reader :
    ProviderSection.reader.Positional (.record (ProviderSection.keys .null)) :=
  (positional_flat rfl (by decide) (by simp [keys])).map _

open Json.Reader in
theorem DataSetSection.positional_reader :
    DataSetSection.reader.Positional (.record DataSetSection.keys) :=
  (positional_flat rfl (by decide) (by simp [keys])).map _

open Json.Reader in
theorem ComplexFile.positional_reader : ComplexFile.reader.Positional (.record ComplexFile.keys) :=
  (positional_flat rfl (by decide) (by simp [keys])).map _

open Json.Reader in
theorem ComplexRecord.positional_reader :
    ComplexRecord.reader.Positional (.record ComplexRecord.keys) :=
  (positional_record (by decide) (
    .field (positional_any _) <|
    .field (ComplexFile.positional_reader.list.orElse []) .nil)).map _

open Json.Reader in
theorem ImportConfig.positional_reader : reader.Positional (schema .null) :=
  (positional_record (by decide) (
    .field (positional_any _) <|
    .field (positional_any _) <|
    .field (positional_any _) <|
    .field (positional_any _) <|
    .field (positional_any _) <|
    .field (positional_any _) <|
    .field (positional_any _) <|
    .field ProviderSection.positional_reader.optional <|
    .field (positional_any _) <|
    .field DataSetSection.positional_reader.optional <|
    .field (positional_any _) <|
    .field (positional_any _) <|
    .field (positional_any _) <|
    .field (ComplexRecord.positional_reader.list.orElse []) .nil)).map _

/-! ## Deployments -/

open Json.Reader in
theorem Topology.positional_reader : Topology.reader.Positional (.record Topology.keys) :=
  (positional_flat rfl (by decide) (by simp [keys])).map _

open Json.Reader in
theorem TaskSection.positional_reader : TaskSection.reader.Positional (.record TaskSection.keys) :=
  (positional_flat rfl (by decide) (by simp [keys])).map _

open Json.Reader in
theorem DeployConfig.positional_reader : DeployConfig.reader.Positional DeployConfig.schema :=
  (positional_record (by decide) (
    .field (positional_any _) <|
    .field (positional_any _) <|
    .field (positional_any _) <|
    .field (positional_any _) <|
    .field (positional_any _) <|
    .field (positional_any _) <|
    .field (positional_any _) <|
    .field (positional_any _) <|
    .field (positional_any _) <|
    .field (positional_any _) <|
    .field (Topology.positional_reader.list.orElse []) <|
    .field (positional_any _) <|
    .field TaskSection.positional_reader.optional <|
    .field (positional_any _) .nil)).map _

/-! ## Identifiers -/

namespace CloudId

def localKeys : Keys := [("providerId", .required, .any), ("recordId", .omitted, .any)]

def keys : Keys := [("id", .required, .any), ("localId", .required, .record localKeys)]

open Json.Reader in
def localReader : Reader (String × String × Unit) :=
  record "LocalIdWire" (.field "providerId" text none <| .field "recordId" text (some "") .none)

open Json.Reader in
theorem reader_eq : reader = fun depth node =>
    (record "CloudIdWire"
      (.field "id" text none <| .field "localId" localReader none .none) depth node).map
      fun (id, (providerId, recordId, ()), ()) => ⟨id, providerId, recordId⟩ := rfl

open Json.Reader in
theorem positional_localReader : localReader.Positional (.record localKeys) :=
  positional_flat rfl (by simp [localKeys, Keys.names]) (by simp [localKeys])

open Json.Reader in
theorem positional_reader : reader.Positional (.record keys) :=
  reader_eq ▸ (positional_record (by simp [Keys.names]) (
    .field (positional_any _) <|
    .field positional_localReader .nil)).map _

end CloudId

/-! ## All records -/

/-- Every record that is read from a text may be given by the positions of its values as by their
keys. -/
theorem records_acceptEitherForm :
    AcceptsEitherForm (ImportConfig.keys .null) (fun s => (ImportConfig.parse s).toOption) ∧
    AcceptsEitherForm (ImportConfig.keys .null) (fun s => (ImportConfig.ofText s).toOption) ∧
    AcceptsEitherForm (ProviderSection.keys .null)
      (fun s => (ProviderSection.reader.ofText s).toOption) ∧
    AcceptsEitherForm DataSetSection.keys (fun s => (DataSetSection.reader.ofText s).toOption) ∧
    AcceptsEitherForm ComplexRecord.keys (fun s => (ComplexRecord.reader.ofText s).toOption) ∧
    AcceptsEitherForm ComplexFile.keys (fun s => (ComplexFile.reader.ofText s).toOption) ∧
    AcceptsEitherForm DeployConfig.keys (fun s => (DeployConfig.parse s).toOption) ∧
    AcceptsEitherForm DeployConfig.keys (fun s => (DeployConfig.ofText s).toOption) ∧
    AcceptsEitherForm Topology.keys (fun s => (Topology.reader.ofText s).toOption) ∧
    AcceptsEitherForm TaskSection.keys (fun s => (TaskSection.reader.ofText s).toOption) ∧
    AcceptsEitherForm CloudId.keys (fun s => (CloudId.ofText s).toOption) ∧
    AcceptsEitherForm CloudId.localKeys (fun s => (CloudId.localReader.ofText s).toOption) :=
  ⟨ImportConfig.positional_reader.reads,
    ImportConfig.positional_reader.acceptsEitherForm
      (toOption_eq_some_iff.trans ImportConfig.ofText_ok_iff),
    ProviderSection.positional_reader.reads,
    DataSetSection.positional_reader.reads,
    ComplexRecord.positional_reader.reads,
    ComplexFile.positional_reader.reads,
    DeployConfig.positional_reader.reads,
    DeployConfig.positional_reader.acceptsEitherForm
      (toOption_eq_some_iff.trans DeployConfig.ofText_ok_iff),
    Topology.positional_reader.reads,
    TaskSection.positional_reader.reads,
    CloudId.positional_reader.reads,
    CloudId.positional_localReader.reads⟩

theorem records_acceptEitherForm_sample :
    (CloudId.ofText "[\"i\",[\"p\"]]").toOption = some ⟨"i", "p", ""⟩ ∧
    (CloudId.ofText "\x7b\"id\":\"i\",\"localId\":[\"p\"]\x7d").toOption = some ⟨"i", "p", ""⟩ ∧
    (CloudId.ofText "\x7b\"id\":\"i\",\"localId\":\x7b\"providerId\":\"p\"\x7d\x7d").toOption =
      some ⟨"i", "p", ""⟩ ∧
    (CloudId.ofText "[\"i\",[\"p\"],null]").toOption = none := by
  obtain ⟨-, -, -, -, -, -, -, -, -, -, hid, -⟩ := records_acceptEitherForm
  have hread : (CloudId.ofText "[\"i\",[\"p\"]]").toOption = some ⟨"i", "p", ""⟩ := rfl
  have hname : IsValueText "\"i\"" := ⟨.text (.ok "i"), rfl, .text _⟩
  have hlocal : IsValueText "[\"p\"]" :=
    ⟨.list [.text (.ok "p")] none, rfl, (Node.skip_ok_iff _).1 rfl⟩
  have hagree := hid.agree ["\"i\"", "[\"p\"]"] (by simp [hname, hlocal]) (by decide)
  have hkeyed := hagree.symm.trans hread
  have hrecast : (Schema.record CloudId.keys).Recast
      (.object [(.ok "id", .text (.ok "i")), (.ok "localId", .list [.text (.ok "p")] none)] none)
      (.object [(.ok "id", .text (.ok "i")),
        (.ok "localId", .object [(.ok "providerId", .text (.ok "p"))] none)] none) :=
    .member [_] [] rfl (.here (by decide))
  refine ⟨hread, hkeyed, ?_, ?_⟩
  · refine Eq.trans (Eq.symm ?_) hkeyed
    exact hid.nested ⟨rfl, (Node.skip_ok_iff _).1 rfl⟩ ⟨rfl, (Node.skip_ok_iff _).1 rfl⟩
      (.rel _ _ hrecast)
  · have hnull : IsValueText "null" := ⟨.null, rfl, .null⟩
    exact hid.surplus ["\"i\"", "[\"p\"]", "null"] (by simp [hname, hlocal, hnull]) (by decide)

end Ingest
