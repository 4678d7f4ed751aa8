import Ingest.CommandLine.Settings
import Ingest.Config.Deploy
import Ingest.Config.Import
import Ingest.Repository.Client
/-!
# Loading configurations

A configuration is read from its file.  The environment may name another user for the repository
than the file does.
-/

namespace Ingest.CommandLine

/-- Why a tool does not start its work. -/
inductive StartProblem where
  | unreadable (path : Path) (cause : Files.Failure)
  | invalid (path : Path) (problem : ConfigProblem)
  | client (problem : Repository.ClientProblem)
  | services (problem : Url.Problem)
  /-- The import that a deployment names cannot be started. -/
  | pendingImport (path : Path) (problem : StartProblem)
  deriving DecidableEq, Repr

/-- A problem with what has caused it; the cause of a malformed text is told twice. -/
def configTrace : ConfigProblem → String
  | .malformed defect => s!"{(ConfigProblem.malformed defect).message}: {defect.message}"
  | .lack what => (ConfigProblem.lack what).message

/-- The wording of a problem, with all that led to it. -/
def StartProblem.message : StartProblem → String
  | .unreadable path cause => s!"Failed to read config file {path.text}: {cause.message}"
  | .invalid path problem => s!"Invalid config file {path.text}: {configTrace problem}"
  | .client problem => problem.message
  | .services problem => (Repository.ClientProblem.proxy problem).message
  | .pendingImport path problem => s!"Cannot load import config {path.text}: {problem.message}"

/-! ## Reading files -/

def readText (path : Path) : WorldDialogue (Except StartProblem String) :=
  .ask (.readFile path) fun
    | .error cause => .done (.error (.unreadable path cause))
    | .ok bytes =>
      match Utf8.decode? bytes with
      | some text => .done (.ok text)
      | none => .done (.error (.unreadable path .notUtf8))

/-! ## The environment -/

/-- The variable that names the user of the repository. -/
def loginVariable : String := "ECLOUD_LOGIN"

def passwordVariable : String := "ECLOUD_PASSWORD"

/-- The value of a variable, unless it is blank. -/
def valueOf (environment : Settings.Variables) (name : String) : Option String :=
  (environment.lookup name).filter (!Text.isBlank ·)

/-- Put the user of the environment in place of the configured one. -/
def withUser (environment : Settings.Variables) (c : ImportConfig) : ImportConfig :=
  { c with
    login := (valueOf environment loginVariable).getD c.login
    password := (valueOf environment passwordVariable).getD c.password }

/-! ## Configurations -/

def loadImport (environment : Settings.Variables) (path : Path) :
    WorldDialogue (Except StartProblem ImportConfig) := do
  let text ← readText path
  return text.bind fun s =>
    match ImportConfig.ofText s with
    | .ok c => .ok (withUser environment c)
    | .error problem => .error (.invalid path problem)

def loadDeploy (path : Path) : WorldDialogue (Except StartProblem DeployConfig) := do
  let text ← readText path
  return text.bind fun s => (DeployConfig.ofText s).mapError (.invalid path)

end Ingest.CommandLine
