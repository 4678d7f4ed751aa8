import Ingest.Config.Proxy
import Ingest.Path
import Ingest.Task
/-!
# Deployment configuration

What the deployment tool is told: which services to prepare and which task to submit.  Each part
counts only when all of its keys are given.
-/

namespace Ingest

open Json

structure Topology where
  jar : String
  mainClass : String
  name : String
  jvmParams : Option String
  deriving DecidableEq, Repr

/-- All that is needed to submit the topology is given. -/
def Topology.isComplete (t : Topology) : Bool :=
  !t.jar.isEmpty && !t.mainClass.isEmpty && !t.name.isEmpty

open Json.Reader in
def Topology.reader : Reader Topology := fun depth node =>
  (record "Topology"
    (.field "jar" (orElse "" text) (some "") <|
     .field "mainClass" (orElse "" text) (some "") <|
     .field "name" (orElse "" text) (some "") <|
     .field "jvmParams" nonBlank (some none) .none) depth node).map
    fun (jar, mainClass, name, jvmParams, ()) => ⟨jar, mainClass, name, jvmParams⟩

structure DeployConfig where
  /-- The import to run after the services are prepared. -/
  importConfigFile : Option String
  solrHome : Option String
  coreName : Option String
  elasticsearchUrl : Option String
  indexName : Option String
  typeName : Option String
  kafkaHome : Option String
  zookeeper : Option String
  topics : List String
  stormHome : Option String
  topologies : List Topology
  /-- The address of the dispatch service. -/
  dps : Option String
  task : Option TaskSection
  proxy : Option String
  deriving DecidableEq, Repr

/-- The search engine's home and the core to create in it. -/
structure SearchCore where
  home : String
  name : String
  deriving DecidableEq, Repr

/-- The index to create in a search cluster, and the type of its documents. -/
structure SearchIndex where
  url : String
  name : String
  typeName : String
  deriving DecidableEq, Repr

/-- The message queue's home and address, and the topics to create in it. -/
structure QueueTopics where
  home : String
  zookeeper : String
  topics : List String
  deriving DecidableEq, Repr

namespace DeployConfig

open Json.Reader in
def reader : Reader DeployConfig := fun depth node =>
  (record "DeployConfig"
    (.field "importConfigFile" nonBlank (some none) <|
     .field "solrHome" nonBlank (some none) <|
     .field "coreName" nonBlank (some none) <|
     .field "elasticsearchUrl" nonBlank (some none) <|
     .field "indexName" nonBlank (some none) <|
     .field "typeName" nonBlank (some none) <|
     .field "kafkaHome" nonBlank (some none) <|
     .field "zookeeper" nonBlank (some none) <|
     .field "topics" (orElse [] (list text)) (some []) <|
     .field "stormHome" nonBlank (some none) <|
     .field "topologies" (orElse [] (list Topology.reader)) (some []) <|
     .field "dps" nonBlank (some none) <|
     .field "task" (optional TaskSection.reader) (some none) <|
     .field "proxy" nonBlank (some none) .none) depth node).map
    fun (importConfigFile, solrHome, coreName, elasticsearchUrl, indexName, typeName, kafkaHome,
        zookeeper, topics, stormHome, topologies, dps, task, proxy, ()) =>
      ⟨importConfigFile, solrHome, coreName, elasticsearchUrl, indexName, typeName, kafkaHome,
        zookeeper, topics, stormHome, topologies, dps, task, proxy⟩

/-! ## What is configured -/

/-- The search core, if its keys are given. -/
def searchCore (c : DeployConfig) : Option SearchCore := do
  let home ← c.solrHome
  let name ← c.coreName
  return ⟨home, name⟩

/-- The search index, if its keys are given. -/
def searchIndex (c : DeployConfig) : Option SearchIndex := do
  let url ← c.elasticsearchUrl
  let name ← c.indexName
  let typeName ← c.typeName
  return ⟨url, name, typeName⟩

/-- The topics, if there are any and the queue's keys are given. -/
def queueTopics (c : DeployConfig) : Option QueueTopics := do
  guard !c.topics.isEmpty
  let home ← c.kafkaHome
  let zookeeper ← c.zookeeper
  return ⟨home, zookeeper, c.topics⟩

/-- The topologies that can be submitted. -/
def completeTopologies (c : DeployConfig) : List Topology := c.topologies.filter (·.isComplete)

/-- The address of the dispatch service and the task for it, if both are given. -/
def dispatch (c : DeployConfig) : Option (String × TaskSection) := do
  let dps ← c.dps
  let task ← c.task
  return (dps, task)

/-- The path of the import configuration, seen from the folder `base`. -/
def importConfigPath (c : DeployConfig) (base : Path) : Option Path :=
  c.importConfigFile.map base.child

/-! ## Checking -/

/-- A task that will be submitted needs a topic and a target. -/
def checkTask (c : DeployConfig) : Except ConfigProblem Unit :=
  match c.dispatch with
  | none => .ok ()
  | some (_, task) =>
    if Text.isBlank task.topic then .error (.lack (.blank "task.topic"))
    else match TaskMessage.ofSection task with
      | .ok _ => .ok ()
      | .error what => .error (.lack what)

/-- Check what the structure of the text does not say. -/
def validate (c : DeployConfig) : Except ConfigProblem Unit := do
  Proxy.check c.proxy
  c.checkTask

/-- Read a configuration without checking it. -/
def parse (s : String) : Except Defect DeployConfig := reader.ofText s

/-- Read and check a configuration. -/
def ofText (s : String) : Except ConfigProblem DeployConfig := do
  let c ← (parse s).mapError .malformed
  c.validate
  return c

end DeployConfig

end Ingest
