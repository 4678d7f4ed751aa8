import Ingest.Config.Import
import Ingest.Store
/-!
# Importing

An import settles the provider and the data set and then stores one record after the other.  Which
records there are follows from the configuration and the folders alone, whatever the repository
answers.
-/

namespace Ingest

/-- What has become of a record: its report, or why it failed. -/
structure RecordOutcome where
  recordId : Option String
  result : Except RemoteError StoreReport

/-- The result in the words of the report. -/
def RecordOutcome.reported (r : RecordOutcome) : Except String StoreReport :=
  r.result.mapError (·.message)

structure ImportReport where
  providerId : String
  dataSetId : Option String
  records : List RecordOutcome

namespace ImportReport

def stored (r : ImportReport) : Nat := r.records.countP (·.result.isOk)

def failed (r : ImportReport) : Nat := r.records.length - r.stored

end ImportReport

/-- A folder that makes up a record: its name and its files in the order of their names. -/
structure FolderRecord where
  name : String
  files : List Path
  deriving DecidableEq, Repr

/-- The record of a folder with the given names of regular files; there is none if the folder's
path has no last component. -/
def FolderRecord.ofListing (folder : Path) (names : List String) : Option FolderRecord :=
  folder.lastComponent?.map fun name =>
    ⟨name, (names.mergeSort fun a b => a ≤ b).map folder.child⟩

/-! ## Generated names -/

/-- The characters of generated names. -/
def nameAlphabet : Array Char := "ABCDEFGHIJKLMNOPQRSTUVWXYZ0123456789".toList.toArray

/-- Sixteen random bytes. -/
abbrev Entropy := Vector UInt8 16

def nameChar (b : UInt8) : Char := nameAlphabet.getD (b.toNat % 36) 'A'

/-- A name of ten capital letters and digits. -/
def generatedName (entropy : Entropy) : String :=
  String.ofList ((entropy.toList.take 10).map nameChar)

/-- The random bytes for the names that an import may have to make up. -/
structure ImportEntropy where
  provider : Entropy
  dataSet : Entropy

namespace Import

variable [Media.Guess]

/-! ## Provider and data set -/

/-- Settle the provider: the configured one, created if asked for, or one with a made-up name. -/
def resolveProvider (entropy : Entropy) (c : ImportConfig) : RepositoryDialogue String :=
  if c.createProvider then
    let id := c.providerName.getD (generatedName entropy)
    .ask (.createProvider id c.providerData) fun _ => .done id
  else .done (c.providerName.getD "")

/-- Settle the data set in the same way. -/
def resolveDataSet (entropy : Entropy) (c : ImportConfig) (providerId : String) :
    RepositoryDialogue (Option String) :=
  if c.createDataSet then
    let id := c.dataSetId.getD (generatedName entropy)
    .ask (.createDataSet providerId ⟨id, c.dataSetDescription⟩) fun _ => .done (some id)
  else .done c.dataSetId

/-! ## Records -/

/-- A record that an import stores: its name, if it has one, and its files. -/
structure PlannedRecord where
  recordId : Option String
  files : List FileEntry
  deriving DecidableEq, Repr

/-- A record whose files are listed one by one; an empty name counts as none. -/
def complexRecord (r : ComplexRecord) : PlannedRecord :=
  ⟨if r.name.isEmpty then none else some r.name,
    r.files.map fun f => .named f.representation f.file⟩

/-- The records of single files, which come first. -/
def fileRecords (c : ImportConfig) : List PlannedRecord :=
  (if c.filesAsOneRecord.isEmpty then [] else [⟨none, c.filesAsOneRecord.map .path⟩]) ++
  c.files.map (fun f => ⟨none, [.path f]⟩)

def folderRecord (f : FolderRecord) : PlannedRecord := ⟨some f.name, f.files.map .path⟩

/-- The records of an import whose folders make up the given records. -/
def planWith (found : List FolderRecord) (c : ImportConfig) : List PlannedRecord :=
  fileRecords c ++ found.map folderRecord ++ c.complexStore.map complexRecord

def plan (folder : Path → Option FolderRecord) (c : ImportConfig) : List PlannedRecord :=
  planWith (c.folders.filterMap folder) c

def storeRecord (providerId : String) (dataSetId : Option String) (r : PlannedRecord) :
    RepositoryDialogue RecordOutcome := do
  let result ← Store.storeFiles ⟨providerId, dataSetId, r.recordId, r.files⟩
  return ⟨r.recordId, result⟩

def storeRecords (providerId : String) (dataSetId : Option String) : List PlannedRecord →
    RepositoryDialogue (List RecordOutcome)
  | [] => .done []
  | r :: rs => do
    let outcome ← storeRecord providerId dataSetId r
    let outcomes ← storeRecords providerId dataSetId rs
    return outcome :: outcomes

/-- Settle the provider and the data set, and store the given records. -/
def runPlan (entropy : ImportEntropy) (c : ImportConfig) (planned : List PlannedRecord) :
    RepositoryDialogue ImportReport := do
  let providerId ← resolveProvider entropy.provider c
  let dataSetId ← resolveDataSet entropy.dataSet c providerId
  let records ← storeRecords providerId dataSetId planned
  return ⟨providerId, dataSetId, records⟩

def run (entropy : ImportEntropy) (folder : Path → Option FolderRecord) (c : ImportConfig) :
    RepositoryDialogue ImportReport :=
  runPlan entropy c (plan folder c)

/-! ## Folders at their turn -/

/-- What an import asks while it looks into its folders itself. -/
inductive Inquiry where
  | repository (request : Repository.Request)
  | folder (path : Path)
  deriving DecidableEq, Repr

def Finding : Inquiry → Type
  | .repository q => Repository.Reply q
  | .folder _ => Option FolderRecord

abbrev InquiryDialogue := Dialogue Inquiry Finding

def ofRepository {α : Type} (d : RepositoryDialogue α) : InquiryDialogue α :=
  d.perform fun q => Dialogue.request (.repository q)

/-- Look into one folder after the other, and store the record that a folder makes up before
looking into the next. -/
def storeFolders (providerId : String) (dataSetId : Option String) :
    List Path → InquiryDialogue (List RecordOutcome)
  | [] => .done []
  | folder :: folders => do
    let found ← Dialogue.request (Inquiry.folder folder)
    let planned := (found : Option FolderRecord).toList.map folderRecord
    let outcomes ← ofRepository (storeRecords providerId dataSetId planned)
    let rest ← storeFolders providerId dataSetId folders
    return outcomes ++ rest

/-- Run an import that looks into each folder when it is the folder's turn. -/
def inTurn (entropy : ImportEntropy) (c : ImportConfig) : InquiryDialogue ImportReport := do
  let providerId ← ofRepository (resolveProvider entropy.provider c)
  let dataSetId ← ofRepository (resolveDataSet entropy.dataSet c providerId)
  let single ← ofRepository (storeRecords providerId dataSetId (fileRecords c))
  let folders ← storeFolders providerId dataSetId c.folders
  let complex ←
    ofRepository (storeRecords providerId dataSetId (c.complexStore.map complexRecord))
  return ⟨providerId, dataSetId, single ++ folders ++ complex⟩

end Import

end Ingest
