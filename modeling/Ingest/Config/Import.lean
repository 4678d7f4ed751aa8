import Ingest.Config.Proxy
import Ingest.Json.Record
import Ingest.Path
/-!
# Import configuration

What the upload tool is told: where the services are, whose records they are, and which files make
up which record.  A key that is null, absent or empty counts as not given.
-/

namespace Ingest

structure ProviderSection where
  name : String
  /-- Its description: any JSON value, or a JSON document inside a text. -/
  data : Option Json.Value

structure DataSetSection where
  id : String
  description : Option String
  deriving DecidableEq, Repr

/-- A file of a record, with the name of its representation or an empty text. -/
structure ComplexFile where
  representation : String
  file : Path
  deriving DecidableEq, Repr

/-- A record whose files are listed one by one. -/
structure ComplexRecord where
  name : String
  files : List ComplexFile
  deriving DecidableEq, Repr

structure ImportConfig where
  endPoint : String
  identityService : String
  contentService : String
  login : String
  password : String
  proxy : Option String
  createProvider : Bool
  provider : Option ProviderSection
  createDataSet : Bool
  dataSet : Option DataSetSection
  /-- All of these files go into one record. -/
  filesAsOneRecord : List Path
  /-- Each of these files is a record of its own. -/
  files : List Path
  /-- Each of these folders is a record with its name. -/
  folders : List Path
  complexStore : List ComplexRecord

open Json

/-! ## Reading -/

namespace Json.Reader

def paths : Reader (List Path) := list fun depth node => (path depth node).map Path.mk

end Json.Reader

open Json.Reader in
def ProviderSection.reader : Reader ProviderSection := fun depth node =>
  (record "ProviderSection"
    (.field "name" (orElse "" text) (some "") <|
     .field "data" (optional value) (some none) .none) depth node).map
    fun (name, data, ()) => ⟨name, data⟩

open Json.Reader in
def DataSetSection.reader : Reader DataSetSection := fun depth node =>
  (record "DataSetSection"
    (.field "dataSetId" (orElse "" text) (some "") <|
     .field "description" nonBlank (some none) .none) depth node).map
    fun (id, description, ()) => ⟨id, description⟩

open Json.Reader in
def ComplexFile.reader : Reader ComplexFile := fun depth node =>
  (record "ComplexFile"
    (.field "repName" (orElse "" text) (some "") <|
     .field "file" path none .none) depth node).map
    fun (representation, file, ()) => ⟨representation, ⟨file⟩⟩

open Json.Reader in
/-- Reads a record whose files are listed one by one. -/
def ComplexRecord.reader : Reader ComplexRecord := fun depth node =>
  (record "ComplexRecord"
    (.field "recName" text none <|
     .field "files" (orElse [] (list ComplexFile.reader)) (some []) .none) depth node).map
    fun (name, files, ()) => ⟨name, files⟩

namespace ImportConfig

open Json.Reader in
def reader : Reader ImportConfig := fun depth node =>
  (record "ImportConfig"
    (.field "endPoint" text none <|
     .field "uis" text none <|
     .field "mcs" text none <|
     .field "login" text none <|
     .field "password" text none <|
     .field "proxy" nonBlank (some none) <|
     .field "createProvider" (orElse false bool) (some false) <|
     .field "provider" (optional ProviderSection.reader) (some none) <|
     .field "createDataSet" (orElse false bool) (some false) <|
     .field "dataSet" (optional DataSetSection.reader) (some none) <|
     .field "filesAsOneRecord" (orElse [] paths) (some []) <|
     .field "files" (orElse [] paths) (some []) <|
     .field "folders" (orElse [] paths) (some []) <|
     .field "complexStore" (orElse [] (list ComplexRecord.reader)) (some []) .none)
    depth node).map
    fun (endPoint, uis, mcs, login, password, proxy, createProvider, provider, createDataSet,
        dataSet, filesAsOneRecord, files, folders, complexStore, ()) =>
      ⟨endPoint, uis, mcs, login, password, proxy, createProvider, provider, createDataSet,
        dataSet, filesAsOneRecord, files, folders, complexStore⟩

/-! ## What is configured -/

/-- The name of the provider, if it is given. -/
def providerName (c : ImportConfig) : Option String :=
  (c.provider.map (·.name)).filter (!·.isEmpty)

/-- The data of the provider, if any are given. -/
def providerValue (c : ImportConfig) : Option Value := c.provider.bind (·.data)

/-- The description of the provider as a JSON text; a text is taken for a document as it stands. -/
def providerData (c : ImportConfig) : String :=
  match c.providerValue with
  | none | some .null => "\x7b\x7d"
  | some (.text raw) => if Text.isBlank raw then "\x7b\x7d" else raw
  | some other => other.render

/-- The identifier of the data set, if it is given. -/
def dataSetId (c : ImportConfig) : Option String :=
  (c.dataSet.map (·.id)).filter (!·.isEmpty)

/-- The description of the data set, if it is given. -/
def dataSetDescription (c : ImportConfig) : Option String := c.dataSet.bind (·.description)

/-! ## Checking -/

/-- A text that may not be blank. -/
def require (key value : String) : Except ConfigProblem Unit :=
  if Text.isBlank value then .error (.lack (.blank key)) else .ok ()

/-- A description that is a text must be a JSON document, unless it is blank. -/
def checkProviderData : Option Value → Except ConfigProblem Unit
  | some (.text raw) =>
    if Text.isBlank raw then .ok ()
    else match Value.ofText raw with
      | .ok _ => .ok ()
      | .error defect => .error (.lack (.providerData defect))
  | _ => .ok ()

/-- Check what the structure of the text does not say. -/
def validate (c : ImportConfig) : Except ConfigProblem Unit := do
  require "endPoint" c.endPoint
  require "uis" c.identityService
  require "mcs" c.contentService
  if !c.createProvider && c.providerName.isNone then .error (.lack .provider)
  Proxy.check c.proxy
  checkProviderData c.providerValue

/-- Read a configuration without checking it. -/
def parse (s : String) : Except Defect ImportConfig := reader.ofText s

/-- Read and check a configuration. -/
def ofText (s : String) : Except ConfigProblem ImportConfig := do
  let c ← (parse s).mapError .malformed
  c.validate
  return c

end ImportConfig

end Ingest
