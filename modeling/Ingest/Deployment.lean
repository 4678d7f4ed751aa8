import Ingest.Provision
/-!
# Deployment

A deployment is a list of steps that follows from its configuration alone.  Each step is tried
once, in order, whatever has become of the steps before it.
-/

namespace Ingest

/-- The kinds of steps, by what they are for. -/
inductive Step where
  | searchCore
  | indexMapping
  | topic (name : String)
  | topology (name : String)
  | permitTopology (topic : String)
  | submitTask (topic : String)
  deriving DecidableEq, Repr

def Step.describe : Step → String
  | .searchCore => "SearchCore"
  | .indexMapping => "IndexMapping"
  | .topic name => s!"Topic({Text.quoted name})"
  | .topology name => s!"Topology({Text.quoted name})"
  | .permitTopology name => s!"PermitTopology({Text.quoted name})"
  | .submitTask name => s!"SubmitTask({Text.quoted name})"

/-- A step that was tried, and why it failed if it did. -/
structure StepOutcome where
  step : Step
  failure : Option ProvisionError
  deriving DecidableEq, Repr

/-- Why the step failed, in the words of the report. -/
def StepOutcome.reported (o : StepOutcome) : Option String := o.failure.map (·.message)

structure DeployReport where
  steps : List StepOutcome
  /-- Where the submitted task is found, if the service said so. -/
  taskLocation : Option String
  deriving DecidableEq, Repr

/-- The steps that failed, with the failure. -/
def DeployReport.failures (r : DeployReport) : List (Step × ProvisionError) :=
  r.steps.filterMap fun o => o.failure.map fun e => (o.step, e)

/-- The steps that failed, with the failure in words. -/
def DeployReport.reported (r : DeployReport) : List (Step × String) :=
  r.steps.filterMap fun o => o.reported.map fun text => (o.step, text)

namespace Deployment

open Provision

def failure? {α : Type} : Except ProvisionError α → Option ProvisionError
  | .ok _ => none
  | .error e => some e

/-! ## Services -/

/-- A step that only prepares a service: what it is for, with the request that carries it out. -/
structure Preparation where
  step : Step
  request : Request
  deriving DecidableEq, Repr

def preparations (c : DeployConfig) : List Preparation :=
  (c.searchCore.toList.map fun core => ⟨.searchCore, .createSearchCore core⟩) ++
  (c.searchIndex.toList.map fun index => ⟨.indexMapping, .putIndexMapping index⟩) ++
  (c.queueTopics.toList.flatMap fun q =>
    q.topics.map fun topic => ⟨.topic topic, .createTopic q.home q.zookeeper topic⟩) ++
  (c.stormHome.toList.flatMap fun home =>
    c.completeTopologies.map fun t => ⟨.topology t.name, .submitTopology home t⟩)

def prepare (p : Preparation) : ProvisionDialogue StepOutcome :=
  .ask p.request fun reply => .done ⟨p.step, failure? reply⟩

/-- Carry out preparations one after the other. -/
def prepareEach : List Preparation → ProvisionDialogue (List StepOutcome)
  | [] => .done []
  | p :: ps => do
    let outcome ← prepare p
    let outcomes ← prepareEach ps
    return outcome :: outcomes

/-! ## The task -/

/-- Submit the task of a section, if it describes one. -/
def submit (dps : String) (task : TaskSection) (user : Credentials) :
    ProvisionDialogue (Except ProvisionError (Option String)) :=
  match TaskMessage.ofSection task with
  | .ok message => Dialogue.request (Request.submitTask dps task.topic message user)
  | .error what => .done (.error (.invalidTask (ConfigProblem.lack what).message))

/-- Permit the user of a task on its topology and submit the task. -/
def dispatch (dps : String) (task : TaskSection) : ProvisionDialogue DeployReport :=
  let user : Credentials := ⟨task.login, task.password⟩
  .ask (.permitTopology dps task.topic user) fun permitted => do
    let submitted ← submit dps task user
    return ⟨[⟨.permitTopology task.topic, failure? permitted⟩,
        ⟨.submitTask task.topic, failure? submitted⟩],
      submitted.toOption.join⟩

/-- Carry out the part of a deployment that submits the task. -/
def dispatchTask (c : DeployConfig) : ProvisionDialogue DeployReport :=
  match c.dispatch with
  | none => .done ⟨[], none⟩
  | some (dps, task) => dispatch dps task

def run (c : DeployConfig) : ProvisionDialogue DeployReport := do
  let prepared ← prepareEach (preparations c)
  let dispatched ← dispatchTask c
  return { dispatched with steps := prepared ++ dispatched.steps }

end Deployment

end Ingest
