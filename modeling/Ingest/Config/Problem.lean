import Ingest.Json.Defect
/-!
# Problems with a configuration

A configuration is refused because its text has another structure, or because what it says cannot
be carried out.
-/

namespace Ingest

inductive Lack where
  /-- A required text is blank. -/
  | blank (key : String)
  | provider
  | proxy (text : String)
  | providerData (defect : Json.Defect)
  | taskDataSet
  | taskFile
  | taskName (name : String)
  deriving DecidableEq, Repr

inductive ConfigProblem where
  | malformed (defect : Json.Defect)
  | lack (what : Lack)
  deriving DecidableEq, Repr

def newDataSetTask : String := "NewDataset"

def newFileTask : String := "NewFile"

def Lack.message : Lack → String
  | .blank key => s!"{key} must not be empty"
  | .provider => "provider is not defined: set provider.name or createProvider"
  | .proxy text => s!"proxy must be host:port, got {Text.quoted text}"
  | .providerData defect => s!"provider.data is not a JSON document: {defect.message}"
  | .taskDataSet => "task NewDataset needs providerId and datasetId"
  | .taskFile => "task NewFile needs fileUrl"
  | .taskName name =>
    s!"unknown task name {Text.quoted name}, expected {newDataSetTask} or {newFileTask}"

def ConfigProblem.message : ConfigProblem → String
  | .malformed defect => s!"problem with config file structure: {defect.message}"
  | .lack what => s!"invalid configuration: {what.message}"

end Ingest
