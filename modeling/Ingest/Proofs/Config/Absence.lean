import Ingest.Proofs.Config.Acceptance
import Ingest.Proofs.Config.Keys
import Ingest.Proofs.Json.Viewing
/-!
# Members that are not given

A member that is null or empty says what its absence says, in every section of a configuration.
Data of a provider that are blank are still kept in the configuration, so they are compared by what
is made of them later.
-/

namespace Ingest

open Json

/-! ## Absence -/

/-- At each place of a record, an optional member may be left out or be given as what may stand for
its absence, with the same outcome, and a required one may not be left out and may not be null. -/
structure TakesAbsence {γ : Type} (schema : Schema) (accept : String → Option γ) : Prop where
  optional : ∀ {keys : Keys} {tree : List (Key × Node) → Node}, schema.Place keys tree →
    ∀ (name : String) (before after : List (Key × Node)) (node : Node) {absence : Absence}
      {inner : Schema} {s s' : String}, keys.lookup name = some (absence, inner) →
      Lacks name (before ++ after) → absence.Permits node →
      Node.Spells s (tree (before ++ after)) →
      Node.Spells s' (tree (before ++ (.ok name, node) :: after)) → accept s = accept s'
  required : ∀ {keys : Keys} {tree : List (Key × Node) → Node}, schema.Place keys tree →
    ∀ (name : String) (before after : List (Key × Node)) {inner : Schema} {s : String},
      keys.lookup name = some (.required, inner) → Lacks name (before ++ after) →
      Node.Spells s (tree (before ++ after)) ∨
        Node.Spells s (tree (before ++ (.ok name, .null) :: after)) → accept s = none

/-- What is read by a reader that follows a schema, and checked afterwards, takes absence so. -/
theorem Json.Reader.Follows.takesAbsence {α : Type} {r : Reader α} {schema : Schema}
    (h : r.Follows schema) (check : α → Except ConfigProblem Unit) {accept : String → Option α}
    (haccept : ∀ {s a}, accept s = some a ↔ r.ofText s = .ok a ∧ check a = .ok ()) :
    TakesAbsence schema accept where
  optional := by
    intro keys tree hplace name before after node absence inner s s' hname hlacks hnode hs hs'
    refine Option.ext fun a => ?_
    rw [haccept, haccept, Reader.ofText_ok_iff_of_spells hs, Reader.ofText_ok_iff_of_spells hs']
    refine and_congr_left' ⟨fun hread => ?_, fun hread => ?_⟩
    · exact (h.hinges hplace hread).supply hname hlacks hnode
    · exact (h.hinges hplace hread).leaveOut hname hlacks hnode
  required := by
    intro keys tree hplace name before after inner s hname hlacks hs
    refine Option.eq_none_iff_forall_ne_some.2 fun a ha => ?_
    have hread := (haccept.1 ha).1
    rcases hs with hs | hs
    · have hhinges := h.hinges hplace ((Reader.ofText_ok_iff_of_spells hs).1 hread)
      exact (not_hingesOn_of_required hname hlacks).1 hhinges
    · have hhinges := h.hinges hplace ((Reader.ofText_ok_iff_of_spells hs).1 hread)
      exact (not_hingesOn_of_required hname hlacks).2 hhinges

/-! ## Blank data -/

def isBlankText : Value → Bool
  | .text raw => Text.isBlank raw
  | _ => false

def settledData (data : Option Value) : Option Value := data.filter (!isBlankText ·)

theorem settledData_text (raw : String) :
    settledData (some (.text raw)) = if Text.isBlank raw then none else some (.text raw) := by
  rw [settledData, Option.filter_some]
  cases h : Text.isBlank raw <;> simp [isBlankText, h]

def ProviderSection.settled (p : ProviderSection) : ProviderSection :=
  { p with data := settledData p.data }

def ImportConfig.settled (c : ImportConfig) : ImportConfig :=
  { c with provider := c.provider.map (·.settled) }

/-- Data that are blank are taken for absent. -/
def settledDataReader : Reader (Option Value) := fun depth node =>
  (Reader.optional Reader.value depth node).map settledData

theorem fits_settledDataReader :
    Reader.Fits (Option Value) settledDataReader (some none) .blank .any where
  describes := Reader.describes_optional (by decide) fun node hnode depth => by
    rcases hnode.eq_null_or_blank with rfl | ⟨s, rfl, hblank⟩
    · rfl
    · change Except.ok (settledData (some (.text s))) = .ok none
      rw [settledData_text, if_pos hblank]
  conforms := (Reader.thorough_value.optional.map _).conforms

theorem views_settledDataReader :
    settledDataReader.Views (Reader.optional Reader.value) settledData :=
  ⟨map_eq_ok_iff⟩

theorem ProviderSection.views_readerWith :
    (readerWith settledDataReader).Views (readerWith (Reader.optional Reader.value)) settled :=
  (Reader.views_record (.field (some "") (Reader.views_self _) <|
    .field (some none) views_settledDataReader .none) _).map fun _ => rfl

namespace ImportConfig

theorem views_readerWith :
    (readerWith (ProviderSection.readerWith settledDataReader)).Views reader settled :=
  (Reader.views_record (
    .field none (Reader.views_self _) <|
    .field none (Reader.views_self _) <|
    .field none (Reader.views_self _) <|
    .field none (Reader.views_self _) <|
    .field none (Reader.views_self _) <|
    .field (some none) (Reader.views_self _) <|
    .field (some false) (Reader.views_self _) <|
    .field (some none) ProviderSection.views_readerWith.optional <|
    .field (some false) (Reader.views_self _) <|
    .field (some none) (Reader.views_self _) <|
    .field (some []) (Reader.views_self _) <|
    .field (some []) (Reader.views_self _) <|
    .field (some []) (Reader.views_self _) <|
    .field (some []) (Reader.views_self _) .none) _).map fun _ => rfl

theorem providerName_settled (c : ImportConfig) : c.settled.providerName = c.providerName := by
  unfold providerName settled
  cases c.provider <;> rfl

theorem providerValue_settled (c : ImportConfig) :
    c.settled.providerValue = settledData c.providerValue := by
  unfold providerValue settled
  cases c.provider <;> rfl

/-- Blank data are described as none are. -/
theorem providerData_settled (c : ImportConfig) : c.settled.providerData = c.providerData := by
  unfold providerData
  rw [providerValue_settled]
  cases c.providerValue with
  | none => rfl
  | some value =>
    cases value with
    | text raw =>
      rw [settledData_text]
      cases h : Text.isBlank raw <;> simp [h]
    | _ => rfl

theorem checkProviderData_settledData (data : Option Value) :
    checkProviderData (settledData data) = checkProviderData data := by
  cases data with
  | none => rfl
  | some value =>
    cases value with
    | text raw =>
      rw [settledData_text]
      cases h : Text.isBlank raw <;> simp [checkProviderData, h]
    | _ => rfl

theorem validate_settled (c : ImportConfig) : c.settled.validate = c.validate := by
  unfold validate
  rw [providerName_settled, providerValue_settled, checkProviderData_settledData]
  rfl

theorem settled_eq_some_iff {s : String} {c : ImportConfig} :
    (ofText s).toOption.map settled = some c ↔
      (readerWith (ProviderSection.readerWith settledDataReader)).ofText s = .ok c ∧
        c.validate = .ok () := by
  simp only [Option.map_eq_some_iff, toOption_eq_some_iff, ofText_ok_iff, parse,
    Reader.ofText_ok_iff, views_readerWith.ok_iff]
  constructor
  · rintro ⟨whole, ⟨⟨hroot, htrailing⟩, hvalid⟩, rfl⟩
    exact ⟨⟨⟨whole, hroot, rfl⟩, htrailing⟩, (validate_settled whole).trans hvalid⟩
  · rintro ⟨⟨⟨whole, hroot, rfl⟩, htrailing⟩, hvalid⟩
    exact ⟨whole, ⟨⟨hroot, htrailing⟩, (validate_settled whole).symm.trans hvalid⟩, rfl⟩

end ImportConfig

/-! ## Configurations -/

/-- A member that is null, empty or left out says the same in all sections of the configurations.
For the data of a provider this is so of their description. -/
theorem configs_takeAbsence :
    TakesAbsence (ImportConfig.schema .null) (fun s => (ImportConfig.ofText s).toOption) ∧
    TakesAbsence DeployConfig.schema (fun s => (DeployConfig.ofText s).toOption) ∧
    TakesAbsence (ImportConfig.schema .blank)
      (fun s => (ImportConfig.ofText s).toOption.map ImportConfig.settled) ∧
    ∀ c : ImportConfig, c.settled.providerData = c.providerData := by
  refine ⟨?_, ?_, ?_, ImportConfig.providerData_settled⟩
  · exact ImportConfig.conforms_reader.takesAbsence ImportConfig.validate
      (toOption_eq_some_iff.trans ImportConfig.ofText_ok_iff)
  · exact DeployConfig.conforms_reader.takesAbsence DeployConfig.validate
      (toOption_eq_some_iff.trans DeployConfig.ofText_ok_iff)
  · have hprovider := ProviderSection.conforms_readerWith fits_settledDataReader
    exact (ImportConfig.conforms_readerWith hprovider).takesAbsence ImportConfig.validate
      ImportConfig.settled_eq_some_iff

def sampleTopology : String := "\x7b\"topologies\":[\x7b\"jar\":\"a\"\x7d]\x7d"

def sampleImportHead : String :=
  "\x7b\"endPoint\":\"e\",\"uis\":\"u\",\"mcs\":\"m\",\"login\":\"\",\"password\":\"\"," ++
    "\"provider\":"

def sampleImport : String := sampleImportHead ++ "\x7b\"name\":\"P\"\x7d\x7d"

/-- Blank members of a topology and of a provider say what none say, in texts that are accepted;
an end point that is null is as bad as none. -/
theorem configs_takeAbsence_sample :
    ((DeployConfig.ofText sampleTopology).toOption.isSome = true ∧
      (DeployConfig.ofText sampleTopology).toOption =
        (DeployConfig.ofText
          "\x7b\"topologies\":[\x7b\"jar\":\"a\", \"jvmParams\":\" \"\x7d]\x7d").toOption) ∧
    (ImportConfig.ofText "\x7b\"endPoint\":null\x7d").toOption = none ∧
    (ImportConfig.ofText sampleImport).toOption.isSome = true ∧
      (ImportConfig.ofText sampleImport).toOption.map ImportConfig.settled =
        (ImportConfig.ofText
          (sampleImportHead ++ "\x7b\"name\":\"P\",\"data\":\" \"\x7d\x7d")).toOption.map
            ImportConfig.settled := by
  obtain ⟨himport, hdeploy, hdata, -⟩ := configs_takeAbsence
  refine ⟨⟨by decide +kernel, ?_⟩, ?_, by decide +kernel, ?_⟩
  · have hplace : DeployConfig.schema.Place Topology.keys fun members =>
        .object [(.ok "topologies", .list [.object members none] none)] none :=
      .member [] [] rfl (.item [] [] (.here _))
    exact hdeploy.optional hplace "jvmParams" [(.ok "jar", .text (.ok "a"))] [] (.text (.ok " "))
      rfl (by simp [Lacks]) rfl ⟨rfl, (Node.skip_ok_iff _).1 rfl⟩ ⟨rfl, (Node.skip_ok_iff _).1 rfl⟩
  · exact himport.required (.here _) "endPoint" [] [] rfl (by simp [Lacks])
      (.inr ⟨rfl, (Node.skip_ok_iff _).1 rfl⟩)
  · have hplace : (ImportConfig.schema .blank).Place (ProviderSection.keys .blank) fun members =>
        .object [(.ok "endPoint", .text (.ok "e")), (.ok "uis", .text (.ok "u")),
          (.ok "mcs", .text (.ok "m")), (.ok "login", .text (.ok "")),
          (.ok "password", .text (.ok "")), (.ok "provider", .object members none)] none :=
      .member [_, _, _, _, _] [] rfl (.here _)
    exact hdata.optional hplace "data" [(.ok "name", .text (.ok "P"))] [] (.text (.ok " ")) rfl
      (by simp [Lacks]) rfl ⟨rfl, (Node.skip_ok_iff _).1 rfl⟩ ⟨rfl, (Node.skip_ok_iff _).1 rfl⟩

end Ingest
