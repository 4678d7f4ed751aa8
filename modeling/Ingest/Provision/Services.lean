import Ingest.Http.Client
import Ingest.Provision
import Ingest.Template
/-!
# Asking the services themselves

Provisioning requests are carried out by the services' own programs and over HTTP.  A program
succeeds when it exits with zero.
-/

namespace Ingest.Provision

/-- The services, as they are reached over HTTP. -/
structure Services where
  http : Http.Client
  deriving DecidableEq, Repr

/-- An address with a scheme: the one it names, or else that of the web. -/
def withScheme (url : String) : String :=
  if Text.holds "://".toList url.toList then url else "http://" ++ url

/-- The parameters for the virtual machine as one argument, without the quotes around them. -/
def jvmArgument? (params : String) : Option String :=
  let trimmed := (Text.trim params).toList
  let unquoted := match trimmed, trimmed.reverse with
    | '"' :: rest, '"' :: _ => if rest.isEmpty then trimmed else rest.dropLast
    | _, _ => trimmed
  let argument := Text.trim (String.ofList unquoted)
  if argument.isEmpty then none else some argument

/-! ## Programs and files -/

def commandText (program : Path) (arguments : List String) : String :=
  " ".intercalate (program.text :: arguments)

def runCommand (program : Path) (arguments : List String) :
    WorldDialogue (Except ProvisionError Unit) :=
  .ask (.launch program arguments) fun
    | .ok code =>
      .done (if code = some 0 then .ok () else .error (.exit (commandText program arguments) code))
    | .error cause => .done (.error (.launch (commandText program arguments) cause))

/-- Write a file into a folder that is made if need be. -/
def install (folder : Path) (name content : String) : WorldDialogue (Except ProvisionError Unit) :=
  .ask (.makeFolders folder) fun
    | .error cause => .done (.error (.write folder cause))
    | .ok () =>
      .ask (.writeFile (folder.child name) content) fun
        | .error cause => .done (.error (.write (folder.child name) cause))
        | .ok () => .done (.ok ())

def installTemplates (folder : Path) : WorldDialogue (Except ProvisionError Unit) := do
  match ← install folder Template.schemaFile Template.schema with
  | .error e => return .error e
  | .ok () => install folder Template.coreConfigFile Template.coreConfig

/-- Create a search core, install its templates and restart the engine.  A core that exists cannot
be created again, so the templates are installed all the same; what failed first after the
creation is reported, or else the creation. -/
def createSearchCore (core : SearchCore) : WorldDialogue (Except ProvisionError Unit) := do
  let home : Path := ⟨core.home⟩
  let program := (home.child "bin").child "solr"
  let created ← runCommand program ["create", "-c", core.name]
  match ← installTemplates ((((home.child "server").child "solr").child core.name).child "conf") with
  | .error e => return .error e
  | .ok () =>
    match ← runCommand program ["restart"] with
    | .error e => return .error e
    | .ok () => return created

/-- Create a topic with one partition and no replicas. -/
def createTopic (home zookeeper topic : String) : WorldDialogue (Except ProvisionError Unit) :=
  runCommand (((⟨home⟩ : Path).child "bin").child "kafka-topics.sh")
    ["--create", "--zookeeper", zookeeper, "--replication-factor", "1", "--partitions", "1",
      "--topic", topic]

def submitTopology (home : String) (t : Topology) : WorldDialogue (Except ProvisionError Unit) :=
  runCommand (((⟨home⟩ : Path).child "bin").child "storm")
    (["jar", t.jar, t.mainClass, t.name, "1", "1"] ++ (t.jvmParams.bind jvmArgument?).toList)

/-! ## Addresses -/

/-- Where something is done with a topic of the dispatch service. -/
def topologyUrl (dps topic action : String) : Except ProvisionError Url :=
  match Url.ofText (withScheme dps) with
  | .ok url => .ok (url.join ["topologies", topic, action, ""])
  | .error problem => .error (.transport "parse dps URL" (.notUrl problem))

def indexUrl (index : SearchIndex) : Except ProvisionError Url :=
  match Url.ofText (withScheme index.url) with
  | .ok url => .ok (url.join [index.name])
  | .error problem => .error (.transport "put index mapping" (.notUrl problem))

namespace Services

/-- The services as they are reached through a proxy, if there is one. -/
def build (proxy : Option String) : Except Url.Problem Services :=
  (Http.Client.build proxy).map Services.mk

/-- Send a request; its answer must have one of the given statuses. -/
def send (s : Services) (operation : String) (accepted : List Nat) (r : Http.Request) :
    WorldDialogue (Except ProvisionError Http.Answer) := do
  match ← s.http.send r with
  | .error cause => return .error (.transport operation cause)
  | .ok answer =>
    return if answer.status ∈ accepted then .ok answer
      else .error (.unexpectedStatus operation answer.status answer.body)

/-- Create a search index with its mapping. -/
def putIndexMapping (s : Services) (index : SearchIndex) :
    WorldDialogue (Except ProvisionError Unit) :=
  match indexUrl index with
  | .error e => .done (.error e)
  | .ok url => do
    let answer ← s.send "put index mapping" [200]
      ((Http.Request.of "PUT" url).withJson (Template.indexMapping index.typeName).render)
    return answer.map fun _ => ()

def permitTopology (s : Services) (dps topic : String) (user : Credentials) :
    WorldDialogue (Except ProvisionError Unit) :=
  match topologyUrl dps topic "permit" with
  | .error e => .done (.error e)
  | .ok url => do
    let answer ← s.send "permit topology" [200]
      (((Http.Request.of "POST" url).withAuth user.login user.password).withForm
        [("username", user.login)])
    return answer.map fun _ => ()

/-- Submit a task; the service may say where it is found. -/
def submitTask (s : Services) (dps topic : String) (message : TaskMessage) (user : Credentials) :
    WorldDialogue (Except ProvisionError (Option String)) :=
  match topologyUrl dps topic "tasks" with
  | .error e => .done (.error e)
  | .ok url => do
    let answer ← s.send "submit task" [200, 201]
      (((Http.Request.of "POST" url).withAuth user.login user.password).withJson message.toJson)
    return answer.map (·.location)

def answer (s : Services) : (q : Request) → WorldDialogue (Reply q)
  | .createSearchCore core => Provision.createSearchCore core
  | .putIndexMapping index => s.putIndexMapping index
  | .createTopic home zookeeper topic => Provision.createTopic home zookeeper topic
  | .submitTopology home topology => Provision.submitTopology home topology
  | .permitTopology dps topic user => s.permitTopology dps topic user
  | .submitTask dps topic message user => s.submitTask dps topic message user

def carryOut {α : Type} (s : Services) (d : ProvisionDialogue α) : WorldDialogue α :=
  d.perform s.answer

end Services

end Ingest.Provision
