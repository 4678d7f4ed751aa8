import Ingest.Config.Deploy
import Ingest.Config.Import
import Ingest.Proofs.Json.Following
/-!
# The keys of configurations

The keys of all sections, each with what may stand for it when it is not given.  The readers of the
configurations follow these schemas.
-/

namespace Ingest

open Json

/-! ## Imports -/

/-- The keys of a provider; what may stand for its data is left open. -/
def ProviderSection.keys (data : Absence) : Keys := [("name", .empty, .any), ("data", data, .any)]

def DataSetSection.keys : Keys := [("dataSetId", .empty, .any), ("description", .blank, .any)]

def ComplexFile.keys : Keys := [("repName", .empty, .any), ("file", .required, .any)]

def ComplexRecord.keys : Keys :=
  [("recName", .required, .any), ("files", .null, .list (.record ComplexFile.keys))]

def ImportConfig.keys (data : Absence) : Keys := [
  ("endPoint", .required, .any),
  ("uis", .required, .any),
  ("mcs", .required, .any),
  ("login", .required, .any),
  ("password", .required, .any),
  ("proxy", .blank, .any),
  ("createProvider", .null, .any),
  ("provider", .null, .record (ProviderSection.keys data)),
  ("createDataSet", .null, .any),
  ("dataSet", .null, .record DataSetSection.keys),
  ("filesAsOneRecord", .null, .any),
  ("files", .null, .any),
  ("folders", .null, .any),
  ("complexStore", .null, .list (.record ComplexRecord.keys))]

def ImportConfig.schema (data : Absence) : Schema := .record (ImportConfig.keys data)

open Json.Reader in
def ProviderSection.readerWith (data : Reader (Option Value)) : Reader ProviderSection :=
  fun depth node =>
    (record "ProviderSection"
      (.field "name" (orElse "" text) (some "") <|
       .field "data" data (some none) .none) depth node).map
      fun (name, data, ()) => ⟨name, data⟩

open Json.Reader in
theorem ProviderSection.conforms_readerWith {read : Reader (Option Value)} {absence : Absence}
    (h : Fits _ read (some none) absence .any) :
    (readerWith read).Conforms (.record (ProviderSection.keys absence)) :=
  (conforms_record (.field fits_text <| .field h .nil)).map _

open Json.Reader in
theorem DataSetSection.conforms_reader :
    DataSetSection.reader.Conforms (.record DataSetSection.keys) :=
  (conforms_record (.field fits_text <| .field fits_nonBlank .nil)).map _

open Json.Reader in
theorem ComplexFile.conforms_reader : ComplexFile.reader.Conforms (.record ComplexFile.keys) :=
  (conforms_record (.field fits_text <| .field (fits_textAs _) .nil)).map _

open Json.Reader in
theorem ComplexRecord.conforms_reader :
    ComplexRecord.reader.Conforms (.record ComplexRecord.keys) :=
  (conforms_record (.field (fits_textAs _) <|
    .field (fits_orElse ComplexFile.conforms_reader.list []) .nil)).map _

open Json.Reader in
theorem fits_paths : Fits (List Path) (paths.orElse []) (some []) .null .any :=
  fits_orElse ((thorough_textAs _).map _).list.conforms []

namespace ImportConfig

open Json.Reader in
def readerWith (provider : Reader ProviderSection) : Reader ImportConfig := fun depth node =>
  (record "ImportConfig"
    (.field "endPoint" text none <|
     .field "uis" text none <|
     .field "mcs" text none <|
     .field "login" text none <|
     .field "password" text none <|
     .field "proxy" nonBlank (some none) <|
     .field "createProvider" (orElse false bool) (some false) <|
     .field "provider" (optional provider) (some none) <|
     .field "createDataSet" (orElse false bool) (some false) <|
     .field "dataSet" (optional DataSetSection.reader) (some none) <|
     .field "filesAsOneRecord" (orElse [] paths) (some []) <|
     .field "files" (orElse [] paths) (some []) <|
     .field "folders" (orElse [] paths) (some []) <|
     .field "complexStore" (orElse [] (list ComplexRecord.reader)) (some []) .none)
    depth node).map
    fun (endPoint, uis, mcs, login, password, proxy, createProvider, provider, createDataSet,
        dataSet, filesAsOneRecord, files, folders, complexStore, ()) =>
      ⟨endPoint, uis, mcs, login, password, proxy, createProvider, provider, createDataSet,
        dataSet, filesAsOneRecord, files, folders, complexStore⟩

theorem reader_eq :
    reader = readerWith (ProviderSection.readerWith (Reader.optional Reader.value)) := rfl

open Json.Reader in
theorem conforms_readerWith {provider : Reader ProviderSection} {data : Absence}
    (h : provider.Conforms (.record (ProviderSection.keys data))) :
    (readerWith provider).Conforms (schema data) :=
  (conforms_record (
    .field (fits_textAs _) <|
    .field (fits_textAs _) <|
    .field (fits_textAs _) <|
    .field (fits_textAs _) <|
    .field (fits_textAs _) <|
    .field fits_nonBlank <|
    .field (fits_orElse thorough_bool.conforms false) <|
    .field (fits_optional h) <|
    .field (fits_orElse thorough_bool.conforms false) <|
    .field (fits_optional DataSetSection.conforms_reader) <|
    .field fits_paths <|
    .field fits_paths <|
    .field fits_paths <|
    .field (fits_orElse ComplexRecord.conforms_reader.list []) .nil)).map _

open Json.Reader in
theorem conforms_reader : reader.Conforms (schema .null) :=
  reader_eq ▸ conforms_readerWith
    (ProviderSection.conforms_readerWith (fits_optional thorough_value.conforms))

end ImportConfig

/-! ## Deployments -/

def Topology.keys : Keys :=
  [("jar", .empty, .any), ("mainClass", .empty, .any), ("name", .empty, .any),
    ("jvmParams", .blank, .any)]

def TaskSection.keys : Keys :=
  ["topic", "taskName", "providerId", "datasetId", "fileUrl", "indexerName", "index", "type",
    "extractText", "indexData", "storeExtracted", "login", "password"].map (·, .empty, .any)

def DeployConfig.keys : Keys := [
  ("importConfigFile", .blank, .any),
  ("solrHome", .blank, .any),
  ("coreName", .blank, .any),
  ("elasticsearchUrl", .blank, .any),
  ("indexName", .blank, .any),
  ("typeName", .blank, .any),
  ("kafkaHome", .blank, .any),
  ("zookeeper", .blank, .any),
  ("topics", .null, .any),
  ("stormHome", .blank, .any),
  ("topologies", .null, .list (.record Topology.keys)),
  ("dps", .blank, .any),
  ("task", .null, .record TaskSection.keys),
  ("proxy", .blank, .any)]

def DeployConfig.schema : Schema := .record DeployConfig.keys

open Json.Reader in
theorem Topology.conforms_reader : Topology.reader.Conforms (.record Topology.keys) :=
  (conforms_record (.field fits_text <| .field fits_text <| .field fits_text <|
    .field fits_nonBlank .nil)).map _

open Json.Reader in
theorem TaskSection.conforms_reader : TaskSection.reader.Conforms (.record TaskSection.keys) :=
  (conforms_record (
    .field fits_text <| .field fits_text <| .field fits_text <| .field fits_text <|
    .field fits_text <| .field fits_text <| .field fits_text <| .field fits_text <|
    .field fits_flag <| .field fits_flag <| .field fits_flag <|
    .field fits_text <| .field fits_text .nil)).map _

open Json.Reader in
theorem DeployConfig.conforms_reader : DeployConfig.reader.Conforms DeployConfig.schema :=
  (conforms_record (
    .field fits_nonBlank <|
    .field fits_nonBlank <|
    .field fits_nonBlank <|
    .field fits_nonBlank <|
    .field fits_nonBlank <|
    .field fits_nonBlank <|
    .field fits_nonBlank <|
    .field fits_nonBlank <|
    .field (fits_orElse (thorough_textAs _).list.conforms []) <|
    .field fits_nonBlank <|
    .field (fits_orElse Topology.conforms_reader.list []) <|
    .field fits_nonBlank <|
    .field (fits_optional TaskSection.conforms_reader) <|
    .field fits_nonBlank .nil)).map _

end Ingest
