import Ingest.CommandLine.Arguments
import Ingest.CommandLine.Loading
import Ingest.CommandLine.Startup
import Ingest.Deployment
import Ingest.Import
import Ingest.Provision.Services
/-!
# Running the tools

All that can be wrong with a configuration is found before anything is done.  After that a tool
goes through to its end, and what fails on the way is only reported.
-/

namespace Ingest.CommandLine

open World

variable [Media.Guess]

/-! ## Reports -/

def printLine (text : String) : WorldDialogue Unit :=
  Dialogue.request (Request.print .output (text ++ "\n"))

def printLines : List String → WorldDialogue Unit
  | [] => .done ()
  | line :: lines => do
    printLine line
    printLines lines

/-- A record in a report; one without a name of its own gets a generated one. -/
def recordLine (r : RecordOutcome) : String :=
  let name := r.recordId.getD "<generated>"
  match r.reported with
  | .ok report =>
    let count := report.representations.length
    s!"Record {name} stored as {report.cloudId.id} ({count} representation(s))"
  | .error text => s!"Record {name} failed: {text}"

def importLines (r : ImportReport) : List String :=
  r.records.map recordLine ++
    [s!"Data import finished: {r.stored} record(s) stored, {r.failed} failed"]

/-- The lines of a report on a deployment: what failed, and where the task is found. -/
def deployLines (r : DeployReport) : List String :=
  (r.reported.map fun (step, text) => s!"Step {step.describe} failed: {text}") ++
    (r.taskLocation.map fun location => s!"Submitted task url: {location}").toList

/-! ## Imports -/

def startedLine : String := "Data import is started"

/-- Answer what an import asks: requests over HTTP, and folders by the names of their files. -/
def answerInquiry (client : Repository.Client) :
    (q : Import.Inquiry) → WorldDialogue (Import.Finding q)
  | .repository q => client.answer q
  | .folder path => .ask (.fileNames path) fun names =>
      .done (Option.bind names (FolderRecord.ofListing path))

def importAll (entropy : ImportEntropy) (client : Repository.Client) (c : ImportConfig) :
    WorldDialogue ImportReport := do
  printLine startedLine
  let report ← (Import.inTurn entropy c).perform (answerInquiry client)
  printLines (importLines report)
  return report

/-- What is needed to carry out an import. -/
structure ReadyImport where
  client : Repository.Client
  config : ImportConfig

/-- Load the configuration of an import and build its client. -/
def readyImport (environment : Settings.Variables) (path : Path) :
    WorldDialogue (Except StartProblem ReadyImport) := do
  let loaded ← loadImport environment path
  return loaded.bind fun c =>
    match Repository.Client.build c with
    | .ok client => .ok ⟨client, c⟩
    | .error problem => .error (.client problem)

/-- Carry out the import of a configuration file. -/
def runImport (environment : Settings.Variables) (entropy : ImportEntropy) (path : Path) :
    WorldDialogue (Except StartProblem ImportReport) := do
  match ← readyImport environment path with
  | .error e => return .error e
  | .ok ready => return .ok (← importAll entropy ready.client ready.config)

/-! ## Deployments -/

/-- What is needed to carry out a deployment, with the import that follows it. -/
structure ReadyDeployment where
  services : Provision.Services
  config : DeployConfig
  pending : Option ReadyImport

/-- The import that a deployment names, made ready; its path is seen from the folder of the
deployment's configuration. -/
def readyPending (environment : Settings.Variables) (path : Path) (c : DeployConfig) :
    WorldDialogue (Except StartProblem (Option ReadyImport)) :=
  match c.importConfigPath (path.parent?.getD ⟨""⟩) with
  | none => .done (.ok none)
  | some file => do
    let ready ← readyImport environment file
    return (ready.map some).mapError (.pendingImport file)

/-- Load the configuration of a deployment and make everything ready. -/
def readyDeployment (environment : Settings.Variables) (path : Path) :
    WorldDialogue (Except StartProblem ReadyDeployment) := do
  match ← loadDeploy path with
  | .error e => return .error e
  | .ok c =>
    match ← readyPending environment path c with
    | .error e => return .error e
    | .ok pending =>
      match Provision.Services.build c.proxy with
      | .error problem => return .error (.services problem)
      | .ok services => return .ok ⟨services, c, pending⟩

/-- Carry out the import that follows a deployment, if there is one. -/
def importPending (entropy : ImportEntropy) : Option ReadyImport →
    WorldDialogue (Option ImportReport)
  | none => .done none
  | some ready => do
    let report ← importAll entropy ready.client ready.config
    return some report

/-- Carry out a deployment and the import that follows it. -/
def deployAll (entropy : ImportEntropy) (ready : ReadyDeployment) :
    WorldDialogue (DeployReport × Option ImportReport) := do
  let report ← ready.services.carryOut (Deployment.run ready.config)
  printLines (deployLines report)
  let imported ← importPending entropy ready.pending
  return (report, imported)

/-- Carry out the deployment of a configuration file. -/
def runDeployment (environment : Settings.Variables) (entropy : ImportEntropy) (path : Path) :
    WorldDialogue (Except StartProblem (DeployReport × Option ImportReport)) := do
  match ← readyDeployment environment path with
  | .error e => return .error e
  | .ok ready => return .ok (← deployAll entropy ready)

/-! ## Programs -/

/-- The exit code for help, arguments that cannot be read and configurations that are refused. -/
def usageExitCode : Nat := 2

def runTool (t : Tool) (environment : Settings.Variables) (entropy : ImportEntropy) (path : Path) :
    WorldDialogue (Except StartProblem Unit) := do
  match t with
  | .importData => return (← runImport environment entropy path).map fun _ => ()
  | .prepareAll => return (← runDeployment environment entropy path).map fun _ => ()

/-- The exit code of a tool that breaks off. -/
def breakdownExitCode : Nat := 101

/-- Complain, and give the exit code; a tool that cannot complain breaks off. -/
def complain (text : String) : WorldDialogue Nat :=
  .ask (.print .errors text) fun (shown : Bool) =>
    .done (if shown then usageExitCode else breakdownExitCode)

/-- Answer a question about the tool, or complain of its arguments. -/
def explain (t : Tool) (problem : UsageProblem) : WorldDialogue Nat :=
  if (problem.errorText t).isEmpty then
    .ask (.print .output (problem.outputText t)) fun _ => .done usageExitCode
  else complain (problem.errorText t)

def breakOff (b : Breakdown) : WorldDialogue Nat :=
  .ask (.print .errors b.text) fun _ => .done breakdownExitCode

/-- Run a tool with its arguments, and give its exit code. -/
def program (t : Tool) (arguments : List String) (environment : Settings.Variables)
    (entropy : ImportEntropy) : WorldDialogue Nat := do
  match ← startUp environment with
  | .error breakdown => breakOff breakdown
  | .ok environment =>
    match configPath arguments with
    | .error problem => explain t problem
    | .ok path =>
      match ← runTool t environment entropy path with
      | .ok () => return 0
      | .error problem => complain s!"error: {problem.message}\n{helpHint}"

end Ingest.CommandLine
