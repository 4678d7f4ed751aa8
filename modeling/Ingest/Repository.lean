import Ingest.Dialogue
import Ingest.Files.Failure
import Ingest.Http.Failure
import Ingest.Json.Record
import Ingest.Path
/-!
# The repository

What can be asked of the identity and content services of the repository, and how a request may
fail.  A request is data; who answers it is left open.
-/

namespace Ingest

/-! ## What requests carry -/

/-- The identifier of a record in the repository, with the names it was issued for. -/
structure CloudId where
  id : String
  providerId : String
  recordId : String
  deriving DecidableEq, Repr

open Json in
open Json.Reader in
/-- Reads the identifier that the identity service answers with. -/
def CloudId.reader : Reader CloudId := fun depth node =>
  (record "CloudIdWire"
    (.field "id" text none <|
     .field "localId"
      (record "LocalIdWire"
        (.field "providerId" text none <| .field "recordId" text (some "") .none)) none .none)
    depth node).map
    fun (id, (providerId, recordId, ()), ()) => ⟨id, providerId, recordId⟩

/-- Read the identifier from a JSON text. -/
def CloudId.ofText (s : String) : Except Json.Defect CloudId := CloudId.reader.ofText s

/-- What an identifier is issued for; without a record name the service makes one up. -/
structure RecordKey where
  providerId : String
  recordId : Option String
  deriving DecidableEq, Repr

structure NewDataSet where
  id : String
  description : Option String
  deriving DecidableEq, Repr

/-- A file to put into a representation, with its name there and its media type. -/
structure FileUpload where
  path : Path
  fileName : String
  mediaType : Option String
  deriving DecidableEq, Repr

/-- A representation to put into a data set; without a version it is the latest one. -/
structure Assignment where
  cloudId : String
  representation : String
  version : Option String
  deriving DecidableEq, Repr

/-- How a version becomes persistent: by the request, or it was so before. -/
inductive PersistOutcome where
  | persisted (url : Option String)
  | alreadyPersistent
  deriving DecidableEq, Repr

/-! ## Failures -/

/-- Why a request to the repository fails. -/
inductive RemoteError where
  | unexpectedStatus (operation : String) (status : Nat) (body : String)
  | missingLocation (operation : String)
  | malformedBody (operation : String) (defect : Json.Defect)
  | transport (operation : String) (cause : Http.Failure)
  | file (path : Path) (cause : Files.Failure)
  deriving DecidableEq, Repr

namespace RemoteError

/-- What the request was for exists already. -/
def isConflict : RemoteError → Bool
  | .unexpectedStatus _ status _ => status = 409
  | _ => false

def message : RemoteError → String
  | .unexpectedStatus operation status body =>
    s!"{operation} returned unexpected status {status}: {body}"
  | .missingLocation operation => s!"{operation} succeeded but sent no Location header"
  | .malformedBody operation defect =>
    s!"{operation} returned a body that could not be parsed: {defect.message}"
  | .transport operation cause => s!"{operation} could not be sent: {cause.message}"
  | .file path cause => s!"cannot read {path.text}: {cause.message}"

end RemoteError

/-! ## Requests -/

namespace Repository

inductive Request where
  | createProvider (id data : String)
  | createDataSet (providerId : String) (dataSet : NewDataSet)
  | createCloudId (key : RecordKey)
  | getCloudId (key : RecordKey)
  | createRepresentation (cloudId name providerId : String)
  | addFile (versionUrl : String) (file : FileUpload)
  | persist (versionUrl : String)
  | assign (providerId dataSetId : String) (assignment : Assignment)
  deriving DecidableEq, Repr

/-- What a request yields when it succeeds. -/
def Result : Request → Type
  | .createProvider .. | .createDataSet .. | .assign .. => Unit
  | .createCloudId _ | .getCloudId _ => CloudId
  | .createRepresentation .. | .addFile .. => String
  | .persist _ => PersistOutcome

abbrev Reply (q : Request) : Type := Except RemoteError (Result q)

def Request.operation : Request → String
  | .createProvider .. => "create provider"
  | .createDataSet .. => "create data set"
  | .createCloudId _ => "create cloud id"
  | .getCloudId _ => "get cloud id"
  | .createRepresentation .. => "create representation"
  | .addFile .. => "add file"
  | .persist _ => "persist representation"
  | .assign .. => "assign representation"

end Repository

abbrev RepositoryDialogue := Dialogue Repository.Request Repository.Reply

end Ingest
