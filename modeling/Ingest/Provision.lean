import Ingest.Config.Deploy
import Ingest.Dialogue
import Ingest.Files.Failure
import Ingest.Http.Failure
/-!
# Provisioning

What can be asked of the services around the repository, and how a request may fail: the search
engine, the search cluster, the message queue, the stream processor and the dispatch service.
-/

namespace Ingest

/-- Why a provisioning step fails. -/
inductive ProvisionError where
  | launch (command : String) (cause : Files.Failure)
  /-- A command ended with this code, or without one when it was killed. -/
  | exit (command : String) (code : Option Int)
  | unexpectedStatus (operation : String) (status : Nat) (body : String)
  | transport (operation : String) (cause : Http.Failure)
  | invalidTask (reason : String)
  | write (path : Path) (cause : Files.Failure)
  deriving DecidableEq, Repr

def exitText : Option Int → String
  | some code => s!"Some({code})"
  | none => "None"

def ProvisionError.message : ProvisionError → String
  | .launch command cause => s!"failed to launch {command}: {cause.message}"
  | .exit command code => s!"{command} exited with {exitText code}"
  | .unexpectedStatus operation status body =>
    s!"{operation} returned unexpected status {status}: {body}"
  | .transport operation cause => s!"{operation} could not be sent: {cause.message}"
  | .invalidTask reason => s!"invalid task: {reason}"
  | .write path cause => s!"cannot write {path.text}: {cause.message}"

structure Credentials where
  login : String
  password : String
  deriving DecidableEq, Repr

namespace Provision

inductive Request where
  | createSearchCore (core : SearchCore)
  | putIndexMapping (index : SearchIndex)
  | createTopic (home zookeeper topic : String)
  | submitTopology (home : String) (topology : Topology)
  | permitTopology (dps topic : String) (user : Credentials)
  | submitTask (dps topic : String) (message : TaskMessage) (user : Credentials)
  deriving DecidableEq, Repr

/-- What a request yields when it succeeds: a task may have a location. -/
def Result : Request → Type
  | .submitTask .. => Option String
  | _ => Unit

abbrev Reply (q : Request) : Type := Except ProvisionError (Result q)

def Request.operation : Request → String
  | .createSearchCore _ => "create search core"
  | .putIndexMapping _ => "put index mapping"
  | .createTopic .. => "create topic"
  | .submitTopology .. => "submit topology"
  | .permitTopology .. => "permit topology"
  | .submitTask .. => "submit task"

end Provision

abbrev ProvisionDialogue := Dialogue Provision.Request Provision.Reply

end Ingest
