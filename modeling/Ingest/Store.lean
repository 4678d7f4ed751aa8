import Ingest.Media
import Ingest.Repository
import Ingest.Text.Lowercase
/-!
# Storing a record

The files of a record are put into representations by name or by extension.  A record has its
identifier first, then all uploads, and last its representations become persistent and are
assigned to the data set.  A failure counts for the least it can: a file, the files of a
representation, or the record when it has no identifier.
-/

namespace Ingest

variable [Media.Guess]

/-! ## Files -/

/-- A file to store, perhaps with the name of its representation. -/
inductive FileEntry where
  | path (path : Path)
  | named (representation : String) (path : Path)
  deriving DecidableEq, Repr

namespace FileEntry

def file : FileEntry → Path
  | .path p | .named _ p => p

/-- The name that is given for the representation; an empty one counts as none. -/
def givenName? : FileEntry → Option String
  | .path _ => none
  | .named name _ => if name.isEmpty then none else some name

/-- The representation that the file goes into: the given one, or the extension in lower case. -/
def representation? (e : FileEntry) : Option String :=
  e.givenName? <|> (e.file.extension?.map Text.lowercase).filter (!·.isEmpty)

/-- The name that the file is stored under: its own. -/
def fileName (e : FileEntry) : String := e.file.fileName?.getD e.file.text

def upload (e : FileEntry) : FileUpload := ⟨e.file, e.fileName, Media.Guess.typeOf? e.file⟩

end FileEntry

/-- The last part of the path of an address that is not empty. -/
def versionOfUrl? (url : String) : Option String :=
  ((Text.cut '/' (url.toList.takeWhile fun c => c ≠ '?' && c ≠ '#')).reverse.find?
    (!·.isEmpty)).map String.ofList

/-! ## Reports -/

structure StoreRequest where
  providerId : String
  dataSetId : Option String
  recordId : Option String
  files : List FileEntry
  deriving DecidableEq, Repr

structure UploadedFile where
  fileName : String
  location : String
  deriving DecidableEq, Repr

structure RepresentationReport where
  name : String
  versionUrl : String
  files : List UploadedFile
  persisted : Bool
  assigned : Bool
  deriving DecidableEq, Repr

/-- What has become of a record: its representations in the order of their creation, and the files
that were not uploaded. -/
structure StoreReport where
  cloudId : CloudId
  representations : List RepresentationReport
  skipped : List Path
  deriving DecidableEq, Repr

namespace Store

open Repository

/-! ## The identifier -/

/-- Ask for a new identifier; a record that has one keeps it. -/
def issueCloudId (key : RecordKey) : RepositoryDialogue (Except RemoteError CloudId) :=
  .ask (.createCloudId key) fun
    | .ok id => .done (.ok id)
    | .error e =>
      if e.isConflict then Dialogue.request (Request.getCloudId key) else .done (.error e)

/-! ## Uploads -/

/-- How far the uploads of a record are. -/
structure Progress where
  representations : List RepresentationReport
  /-- The names of representations that could not be created. -/
  refused : List String
  skipped : List Path
  deriving DecidableEq, Repr

namespace Progress

/-- Nothing has been uploaded. -/
def start : Progress := ⟨[], [], []⟩

def skip (p : Progress) (file : Path) : Progress := { p with skipped := p.skipped ++ [file] }

/-- Note that a representation cannot be created. -/
def refuse (p : Progress) (name : String) : Progress := { p with refused := p.refused ++ [name] }

/-- Add a representation without files. -/
def create (p : Progress) (name versionUrl : String) : Progress :=
  { p with representations := p.representations ++ [⟨name, versionUrl, [], false, false⟩] }

def addFile (p : Progress) (name : String) (file : UploadedFile) : Progress :=
  { p with
    representations := p.representations.map fun r =>
      if r.name = name then { r with files := r.files ++ [file] } else r }

/-- The address of a representation that has been created. -/
def versionUrl? (p : Progress) (name : String) : Option String :=
  (p.representations.find? (·.name = name)).map (·.versionUrl)

end Progress

/-- Upload a file into a representation that has been created. -/
def uploadInto (p : Progress) (name versionUrl : String) (entry : FileEntry) :
    RepositoryDialogue Progress :=
  .ask (.addFile versionUrl entry.upload) fun
    | .ok location => .done (p.addFile name ⟨entry.fileName, location⟩)
    | .error _ => .done (p.skip entry.file)

/-- Upload a file; its representation is created with its first file and never tried again. -/
def uploadEntry (providerId cloudId : String) (p : Progress) (entry : FileEntry) :
    RepositoryDialogue Progress :=
  match entry.representation? with
  | none => .done (p.skip entry.file)
  | some name =>
    if name ∈ p.refused then .done (p.skip entry.file)
    else match p.versionUrl? name with
      | some versionUrl => uploadInto p name versionUrl entry
      | none =>
        .ask (.createRepresentation cloudId name providerId) fun
          | .ok versionUrl => uploadInto (p.create name versionUrl) name versionUrl entry
          | .error _ => .done ((p.refuse name).skip entry.file)

def uploadAll (providerId cloudId : String) : Progress → List FileEntry →
    RepositoryDialogue Progress
  | p, [] => .done p
  | p, entry :: entries => do
    let p ← uploadEntry providerId cloudId p entry
    uploadAll providerId cloudId p entries

/-! ## Closing -/

/-- Assign a persistent representation to the data set, if there is one.  The version is taken from
the address of the persistent version, or else from the one the files went to. -/
def assign (request : StoreRequest) (cloudId : String) (url : Option String)
    (r : RepresentationReport) : RepositoryDialogue RepresentationReport :=
  match request.dataSetId with
  | none => .done r
  | some dataSetId =>
    let version := versionOfUrl? (url.getD r.versionUrl)
    .ask (.assign request.providerId dataSetId ⟨cloudId, r.name, version⟩) fun
      | .ok () => .done { r with assigned := true }
      | .error _ => .done r

/-- Make a representation persistent and assign it. -/
def closeOne (request : StoreRequest) (cloudId : String) (r : RepresentationReport) :
    RepositoryDialogue RepresentationReport :=
  .ask (.persist r.versionUrl) fun
    | .ok (.persisted url) => assign request cloudId url { r with persisted := true }
    | .ok .alreadyPersistent => assign request cloudId none { r with persisted := true }
    | .error _ => .done r

def closeAll (request : StoreRequest) (cloudId : String) : List RepresentationReport →
    RepositoryDialogue (List RepresentationReport)
  | [] => .done []
  | r :: rs => do
    let r ← closeOne request cloudId r
    let rs ← closeAll request cloudId rs
    return r :: rs

/-! ## Records -/

/-- Upload and close everything under an identifier. -/
def storeUnder (request : StoreRequest) (cloudId : CloudId) : RepositoryDialogue StoreReport := do
  let p ← uploadAll request.providerId cloudId.id .start request.files
  let representations ← closeAll request cloudId.id p.representations
  return ⟨cloudId, representations, p.skipped⟩

/-- Store a record.  It fails only if it gets no identifier. -/
def storeFiles (request : StoreRequest) : RepositoryDialogue (Except RemoteError StoreReport) := do
  match ← issueCloudId ⟨request.providerId, request.recordId⟩ with
  | .ok cloudId => return .ok (← storeUnder request cloudId)
  | .error e => return .error e

end Store

end Ingest
