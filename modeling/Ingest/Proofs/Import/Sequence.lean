import Ingest.Import
/-!
# Imports in sequence

An import first asks for what is to be created and then stores its records one after the other.
What each record is stored from is fixed by the configuration and the folders: the records share
the peer's state and nothing else.  The main statement puts the run of an import together from the
runs of its parts.
-/

namespace Ingest.Import

open Repository Dialogue

/-! ## Parts of a run -/

def askEach : List Request → RepositoryDialogue Unit
  | [] => .done ()
  | q :: qs => .ask q fun _ => askEach qs

/-- The runs that store records one after the other, each from the state that the peer is in after
the one before. -/
def storeRuns [Media.Guess] {σ : Type} (peer : Peer Request Reply σ) (s : σ) :
    List StoreRequest → List (Outcome Request Reply σ (Except RemoteError StoreReport))
  | [] => []
  | r :: rs =>
    let first := (Store.storeFiles r).run peer s
    first :: storeRuns peer first.state rs

/-! ## What is configured -/

def providerOf (entropy : Entropy) (c : ImportConfig) : String :=
  c.providerName.getD (if c.createProvider then generatedName entropy else "")

def newDataSetOf (entropy : Entropy) (c : ImportConfig) : NewDataSet :=
  ⟨c.dataSetId.getD (generatedName entropy), c.dataSetDescription⟩

def dataSetOf (entropy : Entropy) (c : ImportConfig) : Option String :=
  if c.createDataSet then some (newDataSetOf entropy c).id else c.dataSetId

def firstRequests (entropy : ImportEntropy) (c : ImportConfig) : List Request :=
  (if c.createProvider then [.createProvider (providerOf entropy.provider c) c.providerData]
    else []) ++
  (if c.createDataSet then
      [.createDataSet (providerOf entropy.provider c) (newDataSetOf entropy.dataSet c)]
    else [])

/-- The records of an import, as they are to be stored: the files that make up one record, each
single file, each folder that makes up a record, and the records whose files are listed. -/
def storeRequests (entropy : ImportEntropy) (folder : Path → Option FolderRecord)
    (c : ImportConfig) : List StoreRequest :=
  let request := StoreRequest.mk (providerOf entropy.provider c) (dataSetOf entropy.dataSet c)
  (if c.filesAsOneRecord = [] then [] else [request none (c.filesAsOneRecord.map .path)]) ++
  c.files.map (fun file => request none [.path file]) ++
  (c.folders.filterMap folder).map (fun f => request (some f.name) (f.files.map .path)) ++
  c.complexStore.map fun r =>
    request (if r.name = "" then none else some r.name)
      (r.files.map fun f => .named f.representation f.file)

def PlannedRecord.request (providerId : String) (dataSetId : Option String) (r : PlannedRecord) :
    StoreRequest :=
  ⟨providerId, dataSetId, r.recordId, r.files⟩

/-! ## Reports -/

/-- A record is reported in the words of its error if it failed, and as it was stored if not. -/
theorem reported_eq_iff {o : RecordOutcome} {reported : Except String StoreReport} :
    o.reported = reported ↔
      (∃ e, o.result = .error e ∧ reported = .error e.message) ∨
        ∃ report, o.result = .ok report ∧ reported = .ok report := by
  rw [RecordOutcome.reported]
  cases o.result with
  | error e =>
      constructor
      · rintro rfl
        exact .inl ⟨e, rfl, rfl⟩
      · rintro (⟨_, ⟨⟩, rfl⟩ | ⟨_, ⟨⟩, -⟩)
        rfl
  | ok report =>
      constructor
      · rintro rfl
        exact .inr ⟨report, rfl, rfl⟩
      · rintro (⟨_, ⟨⟩, -⟩ | ⟨_, ⟨⟩, rfl⟩)
        rfl

/-! ## Runs -/

section Runs

variable {σ : Type} (peer : Peer Request Reply σ) (s : σ)

theorem run_askEach_append (xs ys : List Request) :
    (askEach (xs ++ ys)).run peer s = (askEach xs >>= fun _ => askEach ys).run peer s := by
  induction xs generalizing s with
  | nil => rfl
  | cons q qs ih => simp [askEach, Dialogue.run, ih]

theorem run_resolveProvider (entropy : Entropy) (c : ImportConfig) :
    (resolveProvider entropy c).run peer s =
      let asked := (askEach (if c.createProvider then
        [.createProvider (providerOf entropy c) c.providerData] else [])).run peer s
      ⟨providerOf entropy c, asked.state, asked.exchanges⟩ := by
  by_cases hcreate : c.createProvider <;>
    simp [resolveProvider, providerOf, askEach, Dialogue.run, hcreate]

theorem run_resolveDataSet (entropy : Entropy) (c : ImportConfig) (providerId : String) :
    (resolveDataSet entropy c providerId).run peer s =
      let asked := (askEach (if c.createDataSet then
        [.createDataSet providerId (newDataSetOf entropy c)] else [])).run peer s
      ⟨dataSetOf entropy c, asked.state, asked.exchanges⟩ := by
  by_cases hcreate : c.createDataSet <;>
    simp [resolveDataSet, dataSetOf, newDataSetOf, askEach, Dialogue.run, hcreate]

/-- A record takes nothing but the peer's state from those before it. -/
theorem run_storeRecords [Media.Guess] (providerId : String) (dataSetId : Option String)
    (rs : List PlannedRecord) :
    let requests := rs.map (·.request providerId dataSetId)
    let o := (storeRecords providerId dataSetId rs).run peer s
    o.exchanges = (storeRuns peer s requests).flatMap (·.exchanges) ∧
      o.value.map (·.recordId) = requests.map (·.recordId) ∧
      o.value.map (·.result) = (storeRuns peer s requests).map (·.value) := by
  induction rs generalizing s with
  | nil => exact ⟨rfl, rfl, rfl⟩
  | cons r rs ih =>
      obtain ⟨hexchanges, hids, hresults⟩ :=
        ih ((Store.storeFiles (r.request providerId dataSetId)).run peer s).state
      simp only [storeRecords, storeRecord, run_bind, pure_eq_done, run_done, List.append_nil,
        List.map_cons, storeRuns, List.flatMap_cons]
      exact ⟨congrArg (_ ++ ·) hexchanges, congrArg (_ :: ·) hids, congrArg (_ :: ·) hresults⟩

end Runs

theorem plan_requests (entropy : ImportEntropy) (folder : Path → Option FolderRecord)
    (c : ImportConfig) :
    (plan folder c).map
        (·.request (providerOf entropy.provider c) (dataSetOf entropy.dataSet c)) =
      storeRequests entropy folder c := by
  have hcomplex : PlannedRecord.request (providerOf entropy.provider c)
      (dataSetOf entropy.dataSet c) ∘ complexRecord = fun r =>
        ⟨providerOf entropy.provider c, dataSetOf entropy.dataSet c,
          if r.name = "" then none else some r.name,
          r.files.map fun f => .named f.representation f.file⟩ := by
    funext r
    simp [PlannedRecord.request, complexRecord]
  simp only [plan, planWith, fileRecords, storeRequests, List.map_append, List.map_map, hcomplex]
  by_cases hone : c.filesAsOneRecord = []
  · simp only [hone, List.isEmpty_nil, if_true, List.map_nil]
    rfl
  · simp only [List.isEmpty_iff, hone, if_false, List.map_cons, List.map_nil]
    rfl

/-- An import is the requests for what is to be created, followed by its records. -/
theorem run_eq [Media.Guess] {σ : Type} (peer : Peer Request Reply σ) (s : σ)
    (entropy : ImportEntropy) (folder : Path → Option FolderRecord) (c : ImportConfig) :
    (run entropy folder c).run peer s =
      let asked := (askEach (firstRequests entropy c)).run peer s
      let stored := (storeRecords (providerOf entropy.provider c) (dataSetOf entropy.dataSet c)
        (plan folder c)).run peer asked.state
      ⟨⟨providerOf entropy.provider c, dataSetOf entropy.dataSet c, stored.value⟩, stored.state,
        asked.exchanges ++ stored.exchanges⟩ := by
  have hfirst := run_askEach_append peer s
  simp only [run_bind] at hfirst
  simp only [run, runPlan, run_bind, run_resolveProvider, run_resolveDataSet, firstRequests, hfirst,
    pure_eq_done, run_done, List.append_nil, List.append_assoc]

/-- How the run of an import is made up. -/
structure InSequence [Media.Guess] {σ : Type} (peer : Peer Request Reply σ) (s : σ)
    (entropy : ImportEntropy) (folder : Path → Option FolderRecord) (c : ImportConfig)
    (o : Outcome Request Reply σ ImportReport) : Prop where
  /-- First what is to be created is asked for; then the records are stored, from the state that
  the peer has reached. -/
  exchanges_eq : o.exchanges =
    ((askEach (firstRequests entropy c)).run peer s).exchanges ++
      (storeRuns peer ((askEach (firstRequests entropy c)).run peer s).state
        (storeRequests entropy folder c)).flatMap (·.exchanges)
  provider_eq : o.value.providerId = providerOf entropy.provider c
  dataSet_eq : o.value.dataSetId = dataSetOf entropy.dataSet c
  /-- There is one outcome for each record, in order, under the name that it was stored with. -/
  recordIds_eq : o.value.records.map (·.recordId) =
    (storeRequests entropy folder c).map (·.recordId)
  /-- Each outcome is that of the record's own run. -/
  results_eq : o.value.records.map (·.result) =
    (storeRuns peer ((askEach (firstRequests entropy c)).run peer s).state
      (storeRequests entropy folder c)).map (·.value)

/-- Whatever the repository answers, every record is stored once, in its turn and from its own
request; the answers to one record reach another only through the repository itself. -/
theorem run_in_sequence [Media.Guess] {σ : Type} (peer : Peer Request Reply σ) (s : σ)
    (entropy : ImportEntropy) (folder : Path → Option FolderRecord) (c : ImportConfig) :
    InSequence peer s entropy folder c ((run entropy folder c).run peer s) := by
  obtain ⟨hexchanges, hids, hresults⟩ :=
    run_storeRecords peer ((askEach (firstRequests entropy c)).run peer s).state
      (providerOf entropy.provider c) (dataSetOf entropy.dataSet c) (plan folder c)
  rw [plan_requests] at hexchanges hids hresults
  rw [run_eq]
  exact ⟨congrArg (_ ++ ·) hexchanges, rfl, rfl, hids, hresults⟩

end Ingest.Import
