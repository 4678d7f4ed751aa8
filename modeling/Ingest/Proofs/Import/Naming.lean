import Ingest.Media.Common
import Ingest.Proofs.Config.Acceptance
import Ingest.Proofs.Dialogue.Conduct
import Ingest.Proofs.Import.Sequence
/-!
# The names of an import

An import has one provider and at most one data set.  They are settled before any record is stored,
and every request afterwards carries them, whatever the repository answers.  That they are names at
all, and not empty texts, follows from what is checked when the configuration is read, from how
folders are named and from how names are made up.
-/

namespace Ingest

/-! ## Texts that are not empty -/

theorem Path.head_partsFromEnd_ne_nil {body part : List Char} {parts : List (List Char)}
    (h : Path.partsFromEnd body = part :: parts) : part ≠ [] := by
  have hidle : isIdle part = false := by
    have hhead := List.head?_dropWhile_not isIdle (Text.cut '/' body).reverse
    rw [partsFromEnd] at h
    rw [h] at hhead
    simpa using hhead
  rintro rfl
  simp [isIdle] at hidle

theorem Path.lastComponent?_ne_empty {p : Path} {name : String}
    (h : p.lastComponent? = some name) : name ≠ "" := by
  unfold Path.lastComponent? at h
  cases hstart : Path.start p.text.toList with
  | mk start body =>
      rw [hstart] at h
      cases hparts : Path.partsFromEnd body with
      | cons part parts =>
          simp only [hparts, Option.some.injEq] at h
          rw [← h]
          simpa using Path.head_partsFromEnd_ne_nil hparts
      | nil =>
          cases start with
          | plain => simp [hparts] at h
          | root | current =>
              simp only [hparts] at h
              cases h
              simp [Path.Start.text]

theorem FolderRecord.name_ne_empty {folder : Path} {names : List String} {r : FolderRecord}
    (h : FolderRecord.ofListing folder names = some r) : r.name ≠ "" := by
  obtain ⟨name, hname, rfl⟩ := Option.map_eq_some_iff.1 h
  exact Path.lastComponent?_ne_empty hname

/-! ## Names that are made up -/

def IsMadeUp (name : String) : Prop :=
  name.toList.length = 10 ∧ ∀ c ∈ name.toList, c.isUpper = true ∨ c.isDigit = true

theorem nameChar_class (b : UInt8) : (nameChar b).isUpper = true ∨ (nameChar b).isDigit = true := by
  have hall : ∀ n < 36, (nameAlphabet.getD n 'A').isUpper = true ∨
      (nameAlphabet.getD n 'A').isDigit = true := by decide +kernel
  exact hall _ (Nat.mod_lt _ (by decide))

theorem isMadeUp_generatedName (entropy : Entropy) : IsMadeUp (generatedName entropy) := by
  unfold IsMadeUp generatedName
  rw [String.toList_ofList]
  constructor
  · simp
  · intro c hc
    obtain ⟨b, -, rfl⟩ := List.mem_map.1 hc
    exact nameChar_class b

theorem IsMadeUp.ne_empty {name : String} (h : IsMadeUp name) : name ≠ "" := by
  rintro rfl
  exact absurd h.1 (by decide)

/-! ## Requests that keep to their names -/

namespace Repository

/-- A request is made for the provider and, where it is about a data set, for the given one.  The
name of a record is left out rather than empty. -/
def Request.Under (providerId : String) (dataSetId : Option String) : Request → Prop
  | .createProvider id _ => id = providerId
  | .createDataSet provider dataSet => provider = providerId ∧ dataSetId = some dataSet.id
  | .createCloudId key | .getCloudId key => key.providerId = providerId ∧ key.recordId ≠ some ""
  | .createRepresentation _ _ provider => provider = providerId
  | .assign provider dataSet _ => provider = providerId ∧ dataSetId = some dataSet
  | .addFile .. | .persist _ => True

end Repository

open Repository Dialogue

namespace Store

variable {providerId : String} {dataSetId : Option String}

theorem keepsTo_issueCloudId {key : RecordKey} (hprovider : key.providerId = providerId)
    (hrecord : key.recordId ≠ some "") :
    KeepsTo (Request.Under providerId dataSetId) (fun _ => True) (issueCloudId key) := by
  refine .ask ⟨hprovider, hrecord⟩ fun reply => ?_
  cases reply with
  | ok id => exact .done trivial
  | error e =>
      by_cases hconflict : e.isConflict = true
      · simp only [hconflict]
        exact .ask ⟨hprovider, hrecord⟩ fun _ => .done trivial
      · simp only [hconflict]
        exact .done trivial

theorem keepsTo_uploadInto [Media.Guess] (p : Progress) (name versionUrl : String)
    (entry : FileEntry) :
    KeepsTo (Request.Under providerId dataSetId) (fun _ => True)
      (uploadInto p name versionUrl entry) := by
  refine .ask trivial fun reply => ?_
  cases reply <;> exact .done trivial

theorem keepsTo_uploadEntry [Media.Guess] (cloudId : String) (p : Progress) (entry : FileEntry) :
    KeepsTo (Request.Under providerId dataSetId) (fun _ => True)
      (uploadEntry providerId cloudId p entry) := by
  unfold uploadEntry
  split
  · exact .done trivial
  · split
    · exact .done trivial
    · split
      · exact keepsTo_uploadInto ..
      · refine .ask rfl fun reply => ?_
        cases reply with
        | ok versionUrl => exact keepsTo_uploadInto ..
        | error e => exact .done trivial

theorem keepsTo_uploadAll [Media.Guess] (cloudId : String) (p : Progress)
    (entries : List FileEntry) :
    KeepsTo (Request.Under providerId dataSetId) (fun _ => True)
      (uploadAll providerId cloudId p entries) := by
  induction entries generalizing p with
  | nil => exact .done trivial
  | cons entry entries ih => exact (keepsTo_uploadEntry cloudId p entry).bind fun p _ => ih p

theorem keepsTo_assign {request : StoreRequest} (cloudId : String) (url : Option String)
    (r : RepresentationReport) :
    KeepsTo (Request.Under request.providerId request.dataSetId) (fun _ => True)
      (assign request cloudId url r) := by
  unfold assign
  cases hdataSet : request.dataSetId with
  | none => exact .done trivial
  | some dataSetId =>
      refine .ask ⟨rfl, rfl⟩ fun reply => ?_
      cases reply <;> exact .done trivial

theorem keepsTo_closeOne {request : StoreRequest} (cloudId : String) (r : RepresentationReport) :
    KeepsTo (Request.Under request.providerId request.dataSetId) (fun _ => True)
      (closeOne request cloudId r) := by
  refine .ask trivial fun reply => ?_
  match reply with
  | .ok (.persisted url) => exact keepsTo_assign ..
  | .ok .alreadyPersistent => exact keepsTo_assign ..
  | .error _ => exact .done trivial

theorem keepsTo_closeAll {request : StoreRequest} (cloudId : String)
    (rs : List RepresentationReport) :
    KeepsTo (Request.Under request.providerId request.dataSetId) (fun _ => True)
      (closeAll request cloudId rs) := by
  induction rs with
  | nil => exact .done trivial
  | cons r rs ih =>
      exact (keepsTo_closeOne cloudId r).bind fun _ _ => ih.bind fun _ _ => .done trivial

theorem keepsTo_storeFiles [Media.Guess] {request : StoreRequest}
    (hrecord : request.recordId ≠ some "") :
    KeepsTo (Request.Under request.providerId request.dataSetId) (fun _ => True)
      (storeFiles request) := by
  have hissue : KeepsTo (Request.Under request.providerId request.dataSetId) (fun _ => True)
      (issueCloudId ⟨request.providerId, request.recordId⟩) := keepsTo_issueCloudId rfl hrecord
  refine hissue.bind fun issued _ => ?_
  cases issued with
  | error e => exact .done trivial
  | ok cloudId =>
      have hunder : KeepsTo (Request.Under request.providerId request.dataSetId) (fun _ => True)
          (storeUnder request cloudId) :=
        (keepsTo_uploadAll ..).bind fun _ _ => (keepsTo_closeAll ..).bind fun _ _ => .done trivial
      exact hunder.bind fun _ _ => .done trivial

end Store

namespace Import

/-! ## Records -/

def folderRecords (listing : Path → Option (List String)) (folder : Path) : Option FolderRecord :=
  (listing folder).bind (FolderRecord.ofListing folder)

/-- A planned record either has a name or leaves it to the repository. -/
theorem plan_recordId_ne_empty {listing : Path → Option (List String)} {c : ImportConfig} :
    ∀ r ∈ plan (folderRecords listing) c, r.recordId ≠ some "" := by
  intro r hr
  simp only [plan, planWith, fileRecords, List.mem_append, List.mem_map, List.mem_filterMap] at hr
  rcases hr with ((hone | ⟨file, -, rfl⟩) | ⟨record, ⟨folder, -, hfolder⟩, rfl⟩) | ⟨record, -, rfl⟩
  · split at hone
    · cases hone
    · rw [List.mem_singleton] at hone
      subst hone
      exact (Option.some_ne_none "").symm
  · exact (Option.some_ne_none "").symm
  · obtain ⟨names, -, hrecord⟩ := Option.bind_eq_some_iff.1 hfolder
    intro hname
    exact FolderRecord.name_ne_empty hrecord (Option.some.inj hname)
  · intro hname
    simp only [complexRecord] at hname
    split at hname
    · cases hname
    · rename_i hempty
      rw [Option.some.inj hname] at hempty
      exact hempty rfl

theorem keepsTo_storeRecords [Media.Guess] {providerId : String} {dataSetId : Option String}
    {rs : List PlannedRecord} (hrs : ∀ r ∈ rs, r.recordId ≠ some "") :
    KeepsTo (Request.Under providerId dataSetId) (fun _ => True)
      (storeRecords providerId dataSetId rs) := by
  induction rs with
  | nil => exact .done trivial
  | cons r rs ih =>
      obtain ⟨hr, hrest⟩ := List.forall_mem_cons.1 hrs
      have hrecord : KeepsTo (Request.Under providerId dataSetId) (fun _ => True)
          (storeRecord providerId dataSetId r) :=
        (@Store.keepsTo_storeFiles _ ⟨providerId, dataSetId, r.recordId, r.files⟩ hr).bind
          fun _ _ => .done trivial
      exact hrecord.bind fun _ _ => (ih hrest).bind fun _ _ => .done trivial

/-! ## Imports -/

theorem providerOf_eq {entropy : Entropy} {c : ImportConfig} (h : c.validate = .ok ()) :
    providerOf entropy c = c.providerName.getD (generatedName entropy) := by
  unfold providerOf
  rcases ImportConfig.provider_of_validate h with hcreate | ⟨name, hname⟩
  · rw [hcreate]
    rfl
  · rw [hname]
    rfl

theorem providerOf_ne_empty {entropy : Entropy} {c : ImportConfig} (h : c.validate = .ok ()) :
    providerOf entropy c ≠ "" := by
  rw [providerOf_eq h]
  cases hname : c.providerName with
  | none => exact (isMadeUp_generatedName entropy).ne_empty
  | some name => exact ImportConfig.providerName_ne_empty hname

theorem dataSetOf_ne_empty {entropy : Entropy} {c : ImportConfig} {id : String}
    (h : dataSetOf entropy c = some id) : id ≠ "" := by
  have hmade := (isMadeUp_generatedName entropy).ne_empty
  cases hgiven : c.dataSetId with
  | none =>
      simp only [dataSetOf, newDataSetOf, hgiven, Option.getD_none] at h
      split at h
      · exact Option.some.inj h ▸ hmade
      · cases h
  | some given =>
      simp only [dataSetOf, newDataSetOf, hgiven, Option.getD_some, ite_self] at h
      exact Option.some.inj h ▸ ImportConfig.dataSetId_ne_empty hgiven

theorem keepsTo_resolveProvider (entropy : Entropy) (c : ImportConfig)
    (dataSetId : Option String) :
    KeepsTo (Request.Under (providerOf entropy c) dataSetId) (· = providerOf entropy c)
      (resolveProvider entropy c) := by
  cases hcreate : c.createProvider with
  | true =>
      have hprovider : c.providerName.getD (generatedName entropy) = providerOf entropy c := by
        simp [providerOf, hcreate]
      simp only [resolveProvider, hcreate, if_true]
      exact .ask hprovider fun _ => .done hprovider
  | false =>
      have hprovider : c.providerName.getD "" = providerOf entropy c := by
        simp [providerOf, hcreate]
      simp only [resolveProvider, hcreate]
      exact .done hprovider

theorem keepsTo_resolveDataSet (entropy : Entropy) (c : ImportConfig) (providerId : String) :
    KeepsTo (Request.Under providerId (dataSetOf entropy c)) (· = dataSetOf entropy c)
      (resolveDataSet entropy c providerId) := by
  cases hcreate : c.createDataSet with
  | true =>
      have hdataSet : dataSetOf entropy c = some (c.dataSetId.getD (generatedName entropy)) := by
        simp [dataSetOf, newDataSetOf, hcreate]
      simp only [resolveDataSet, hcreate, if_true]
      exact .ask ⟨rfl, hdataSet⟩ fun _ => .done hdataSet.symm
  | false =>
      have hdataSet : c.dataSetId = dataSetOf entropy c := by simp [dataSetOf, hcreate]
      simp only [resolveDataSet, hcreate]
      exact .done hdataSet

theorem keepsTo_run [Media.Guess] (entropy : ImportEntropy) (listing : Path → Option (List String))
    (c : ImportConfig) :
    KeepsTo (Request.Under (providerOf entropy.provider c) (dataSetOf entropy.dataSet c))
      (fun report => report.providerId = providerOf entropy.provider c ∧
        report.dataSetId = dataSetOf entropy.dataSet c)
      (run entropy (folderRecords listing) c) := by
  refine (keepsTo_resolveProvider ..).bind ?_
  rintro _ rfl
  refine (keepsTo_resolveDataSet ..).bind ?_
  rintro _ rfl
  exact (keepsTo_storeRecords plan_recordId_ne_empty).bind fun _ _ => .done ⟨rfl, rfl⟩

/-- One provider and at most one data set, named in the report, are those of the whole run. -/
structure NamedThroughout {σ : Type} (entropy : ImportEntropy) (c : ImportConfig)
    (o : Outcome Request Reply σ ImportReport) : Prop where
  /-- The provider is the configured one; without one a name is made up. -/
  provider_eq : o.value.providerId = c.providerName.getD (generatedName entropy.provider)
  provider_ne_empty : o.value.providerId ≠ ""
  /-- So is the data set, if one is to be created. -/
  dataSet_eq : o.value.dataSetId =
    if c.createDataSet then some (c.dataSetId.getD (generatedName entropy.dataSet))
    else c.dataSetId
  dataSet_ne_empty : ∀ id, o.value.dataSetId = some id → id ≠ ""
  requests_under : ∀ q ∈ o.requests, q.Under o.value.providerId o.value.dataSetId
  /-- Without a data set nothing is assigned. -/
  nothing_assigned : o.value.dataSetId = none →
    ∀ provider dataSet assignment, Request.assign provider dataSet assignment ∉ o.requests

/-- Whatever the repository answers and whatever the random bytes are, an import that was accepted
makes all of its requests under the provider and the data set of its report, and these are names
and not empty texts; a name that is made up is ten capital letters and digits. -/
theorem run_named_throughout [Media.Guess] {text : String} {c : ImportConfig}
    (h : ImportConfig.ofText text = .ok c) {σ : Type} (peer : Peer Request Reply σ) (s : σ)
    (entropy : ImportEntropy) (listing : Path → Option (List String)) :
    NamedThroughout entropy c ((run entropy (folderRecords listing) c).run peer s) ∧
      ∀ bytes, IsMadeUp (generatedName bytes) := by
  refine ⟨?_, isMadeUp_generatedName⟩
  obtain ⟨-, hvalid⟩ := ImportConfig.ofText_ok_iff.1 h
  obtain ⟨hrequests, hprovider, hdataSet⟩ := (keepsTo_run entropy listing c).run peer s
  rw [← hprovider, ← hdataSet] at hrequests
  refine ⟨?_, ?_, ?_, ?_, hrequests, ?_⟩
  · rw [hprovider, providerOf_eq hvalid]
  · rw [hprovider]
    exact providerOf_ne_empty hvalid
  · exact hdataSet
  · rw [hdataSet]
    exact fun _ => dataSetOf_ne_empty
  · intro hnone provider dataSet assignment hmem
    obtain ⟨-, hsome⟩ := hrequests _ hmem
    rw [hnone] at hsome
    cases hsome

/-! ## A sample -/

def unnamedText : String :=
  "\x7b\"endPoint\":\"http://h\",\"uis\":\"uis\",\"mcs\":\"mcs\",\"login\":\"\",\"password\":\"\"," ++
  "\"createProvider\":true,\"createDataSet\":true,\"dataSet\":\x7b\"dataSetId\":\"\"\x7d," ++
  "\"folders\":[\"f/\"],\"complexStore\":[\x7b\"recName\":\"\",\"files\":[\x7b\"file\":\"a.txt\"\x7d]\x7d]\x7d"

def reluctantPeer : Peer Request Reply Unit where
  reply s
    | .createProvider .. => (.error (.unexpectedStatus "create provider" 500 ""), s)
    | .createDataSet .. => (.error (.unexpectedStatus "create data set" 500 ""), s)
    | .createCloudId key => (.ok ⟨"C", key.providerId, key.recordId.getD ""⟩, s)
    | .getCloudId key => (.ok ⟨"C", key.providerId, key.recordId.getD ""⟩, s)
    | .createRepresentation .. => (.ok "http://h/v/1", s)
    | .addFile .. => (.ok "http://h/v/1/f", s)
    | .persist _ => (.ok .alreadyPersistent, s)
    | .assign .. => (.ok (), s)

def countingEntropy : ImportEntropy :=
  ⟨Vector.ofFn fun i => i.val.toUInt8, Vector.replicate 16 255⟩

theorem run_named_throughout_unnamed :
    ∃ c, ImportConfig.ofText unnamedText = .ok c ∧
      let o := (run countingEntropy (folderRecords fun _ => some []) c).run reluctantPeer ()
      NamedThroughout countingEntropy c o ∧
        o.value.providerId = "ABCDEFGHIJ" ∧ o.value.dataSetId = some "DDDDDDDDDD" := by
  have hnames : ((ImportConfig.ofText unnamedText).toOption.map fun c =>
      (c.providerName, c.createDataSet, c.dataSetId)) = some (none, true, none) := by
    decide +kernel
  obtain ⟨c, hread, hc⟩ := Option.map_eq_some_iff.1 hnames
  rw [toOption_eq_some_iff] at hread
  obtain ⟨hprovider, hcreate, hdataSet⟩ : c.providerName = none ∧ c.createDataSet = true ∧
      c.dataSetId = none := by simpa using hc
  obtain ⟨hnamed, -⟩ :=
    run_named_throughout hread reluctantPeer () countingEntropy fun _ => some []
  refine ⟨c, hread, hnamed, hnamed.provider_eq.trans ?_, hnamed.dataSet_eq.trans ?_⟩
  · rw [hprovider]
    decide +kernel
  · rw [hcreate, hdataSet]
    decide +kernel

end Import

end Ingest
