import Ingest.Config.Problem
import Ingest.Json.Record
/-!
# Processing tasks

A task is configured by a section and sent to the dispatch service as a JSON message.  All its
parameters are texts; the settings of the indexer are a JSON document inside one of them.
-/

namespace Ingest

open Json

structure TaskSection where
  topic : String
  name : String
  providerId : String
  dataSetId : String
  fileUrl : String
  indexerName : String
  index : String
  indexType : String
  extractText : String
  indexData : String
  storeExtracted : String
  login : String
  password : String
  deriving DecidableEq, Repr

open Json.Reader in
def TaskSection.reader : Reader TaskSection := fun depth node =>
  (record "TaskSection"
    (.field "topic" (orElse "" text) (some "") <|
     .field "taskName" (orElse "" text) (some "") <|
     .field "providerId" (orElse "" text) (some "") <|
     .field "datasetId" (orElse "" text) (some "") <|
     .field "fileUrl" (orElse "" text) (some "") <|
     .field "indexerName" (orElse "" text) (some "") <|
     .field "index" (orElse "" text) (some "") <|
     .field "type" (orElse "" text) (some "") <|
     .field "extractText" flag (some "") <|
     .field "indexData" flag (some "") <|
     .field "storeExtracted" flag (some "") <|
     .field "login" (orElse "" text) (some "") <|
     .field "password" (orElse "" text) (some "") .none) depth node).map
    fun (topic, name, providerId, dataSetId, fileUrl, indexerName, index, indexType, extractText,
        indexData, storeExtracted, login, password, ()) =>
      ⟨topic, name, providerId, dataSetId, fileUrl, indexerName, index, indexType, extractText,
        indexData, storeExtracted, login, password⟩

inductive TaskTarget where
  | dataSet (providerId dataSetId : String)
  | file (url : String)
  deriving DecidableEq, Repr

def TaskTarget.taskName : TaskTarget → String
  | .dataSet .. => newDataSetTask
  | .file _ => newFileTask

def TaskTarget.parameters : TaskTarget → List (String × String)
  | .dataSet providerId dataSetId => [("PROVIDER_ID", providerId), ("DATASET_ID", dataSetId)]
  | .file url => [("FILE_URL", url)]

def TaskSection.target (s : TaskSection) : Except Lack TaskTarget :=
  if s.name = newDataSetTask then
    if s.providerId.isEmpty || s.dataSetId.isEmpty then .error .taskDataSet
    else .ok (.dataSet s.providerId s.dataSetId)
  else if s.name = newFileTask then
    if s.fileUrl.isEmpty then .error .taskFile else .ok (.file s.fileUrl)
  else .error (.taskName s.name)

/-- The settings of the indexer as a JSON document. -/
def TaskSection.indexer (s : TaskSection) : String :=
  (Value.object [("INDEXER_NAME", .text s.indexerName), ("INDEX", .text s.index),
    ("TYPE", .text s.indexType)]).render

structure TaskMessage where
  /-- The parameters in the order of their names. -/
  parameters : List (String × String)
  taskName : String
  deriving DecidableEq, Repr

namespace TaskMessage

/-- Put a parameter at its place in the order of the names. -/
def insert (p : String × String) : List (String × String) → List (String × String)
  | [] => [p]
  | q :: rest => if p.1 < q.1 then p :: q :: rest else q :: insert p rest

/-- The message for a target, with the settings of a section. -/
def forTarget (s : TaskSection) (target : TaskTarget) : TaskMessage :=
  ⟨([("INDEXER", s.indexer), ("EXTRACT_TEXT", s.extractText), ("INDEX_DATA", s.indexData),
      ("STORE_EXTRACTED_TEXT", s.storeExtracted)] ++ target.parameters).foldr insert [],
    target.taskName⟩

def ofSection (s : TaskSection) : Except Lack TaskMessage := s.target.map (forTarget s)

/-- The message as a JSON value; it names no input files. -/
def toValue (m : TaskMessage) : Value :=
  .object [("inputData", .object []),
    ("parameters", .object (m.parameters.map fun p => (p.1, .text p.2))),
    ("taskName", .text m.taskName)]

def toJson (m : TaskMessage) : String := m.toValue.render

end TaskMessage

end Ingest
