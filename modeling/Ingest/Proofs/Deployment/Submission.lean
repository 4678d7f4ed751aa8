import Ingest.Proofs.Config.Acceptance
import Ingest.Proofs.Deployment.Steps
/-!
# Submitting a task

Whether a task can be submitted is decided when the configuration is read, and once more when the
deployment comes to it.  The two agree: a configuration that was accepted gets its task permitted
and submitted, whatever the services answer, and one whose task could not be submitted is refused
while it is read.
-/

namespace Ingest

def Provision.Request.isForTask : Provision.Request → Bool
  | .permitTopology .. | .submitTask .. => true
  | _ => false

namespace DeployConfig

/-- The dispatch service and the task are given, but the task has no topic or no target. -/
def Unsubmittable (c : DeployConfig) : Prop :=
  ∃ dps task, c.dps = some dps ∧ c.task = some task ∧
    (Text.isBlank task.topic = true ∨ ∃ lack, TaskMessage.ofSection task = .error lack)

theorem not_submittable_iff {task : TaskSection} :
    ¬Submittable task ↔
      Text.isBlank task.topic = true ∨ ∃ lack, TaskMessage.ofSection task = .error lack := by
  unfold Submittable
  cases Text.isBlank task.topic <;> cases TaskMessage.ofSection task <;> simp

theorem checkTask_error_iff {c : DeployConfig} :
    (∃ problem, c.checkTask = .error problem) ↔ c.Unsubmittable := by
  have hnot : (∃ problem, c.checkTask = .error problem) ↔ ¬c.checkTask = .ok () := by
    cases c.checkTask <;> simp
  rw [hnot, checkTask_ok_iff]
  simp only [Unsubmittable, ← not_submittable_iff, Classical.not_forall, exists_prop]

/-- With a proxy that is a host and a port, or without one, only the task is left to check. -/
theorem validate_eq_checkTask {c : DeployConfig}
    (hproxy : ∀ p, c.proxy = some p → Proxy.isWellFormed p = true) : c.validate = c.checkTask := by
  have hcheck : Proxy.check c.proxy = .ok () := by
    cases hgiven : c.proxy with
    | none => rfl
    | some p => simp [Proxy.check, hproxy p hgiven]
  rw [validate, hcheck]
  rfl

theorem ofText_error_iff {text : String} {c : DeployConfig} (hparse : parse text = .ok c)
    (hproxy : ∀ p, c.proxy = some p → Proxy.isWellFormed p = true) :
    (∃ problem, ofText text = .error problem) ↔ c.Unsubmittable := by
  rw [ofText_of_parse hparse, validate_eq_checkTask hproxy, ← checkTask_error_iff]
  cases c.checkTask <;> simp [Except.map]

theorem checkTask_of_validate {c : DeployConfig} (h : c.validate = .ok ()) :
    c.checkTask = .ok () := by
  obtain ⟨_, -, htask⟩ := bind_eq_ok_iff.1 h
  exact htask

end DeployConfig

namespace Deployment

open Provision Dialogue

/-! ## Requests for the task -/

theorem isForTask_serviceRequests (c : DeployConfig) :
    ∀ q ∈ serviceRequests c, q.isForTask = false := by
  intro q hq
  rw [← preparations_requests] at hq
  obtain ⟨p, hp, rfl⟩ := List.mem_map.1 hq
  simp only [preparations, List.mem_append, List.mem_map, List.mem_flatMap] at hp
  obtain ((⟨core, -, rfl⟩ | ⟨index, -, rfl⟩) | ⟨q, -, topic, -, rfl⟩) | ⟨home, -, t, -, rfl⟩ := hp
  all_goals rfl

theorem requestsOf_of_submittable {c : DeployConfig} {dps : String} {task : TaskSection}
    {message : TaskMessage} (hdps : c.dps = some dps) (htask : c.task = some task)
    (hmessage : TaskMessage.ofSection task = .ok message) :
    requestsOf c = serviceRequests c ++ [.permitTopology dps task.topic (userOf task),
      .submitTask dps task.topic message (userOf task)] := by
  simp only [requestsOf, hdps, htask, taskRequests, hmessage]

theorem requestsOf_of_undispatched {c : DeployConfig} (h : c.dps = none ∨ c.task = none) :
    requestsOf c = serviceRequests c := by
  rcases h with hdps | htask
  · simp [requestsOf, hdps]
  · cases hdps : c.dps <;> simp [requestsOf, hdps, htask]

theorem unbuilt_eq_nil {c : DeployConfig} (h : c.checkTask = .ok ()) : unbuilt c = [] := by
  unfold unbuilt
  cases hdps : c.dps with
  | none => rfl
  | some dps =>
      cases htask : c.task with
      | none => rfl
      | some task =>
          obtain ⟨-, message, hmessage⟩ := DeployConfig.checkTask_ok_iff.1 h dps task hdps htask
          simp [unbuiltTask, hmessage]

/-! ## Reports -/

/-- The words of a report are the messages of its failures. -/
theorem reported_eq (r : DeployReport) :
    r.reported = r.failures.map fun (step, e) => (step, e.message) := by
  simp only [DeployReport.reported, DeployReport.failures, StepOutcome.reported,
    List.map_filterMap, Option.map_map]
  rfl

/-- A failure in a report of calls is the failure of one of the calls. -/
theorem exists_call_of_failure {xs : List Call} {report : DeployReport}
    (hsteps : report.steps = xs.map Call.outcome) {step : Step} {e : ProvisionError}
    (h : (step, e) ∈ report.failures) : ∃ x ∈ xs, stepOf x.request = step ∧ x.error? = some e := by
  rw [DeployReport.failures, hsteps, List.filterMap_map] at h
  obtain ⟨x, hx, hfailure⟩ := List.mem_filterMap.1 h
  obtain ⟨e', he, heq⟩ := Option.map_eq_some_iff.1 hfailure
  cases heq
  exact ⟨x, hx, rfl, he⟩

/-- What becomes of the task in the calls and the report of a deployment. -/
structure HandlesTask (c : DeployConfig) (xs : List Call) (report : DeployReport) : Prop where
  /-- Every step is that of a call, with what the service answered to it. -/
  steps_eq : report.steps = xs.map Call.outcome
  /-- No task is found invalid but by the service that was asked. -/
  invalidTask_of_call : ∀ step reason, (step, .invalidTask reason) ∈ report.failures →
    ∃ x ∈ xs, stepOf x.request = step ∧ x.error? = some (.invalidTask reason)
  /-- The last two calls are for the task: its user is permitted, and the message that its section
  describes is submitted. -/
  last_calls : ∀ dps task, c.dps = some dps → c.task = some task →
    Text.isBlank task.topic = false ∧ ∃ before message, TaskMessage.ofSection task = .ok message ∧
      (∀ q ∈ before, q.isForTask = false) ∧
      xs.map (·.request) = before ++ [.permitTopology dps task.topic (userOf task),
        .submitTask dps task.topic message (userOf task)]
  no_calls : c.dps = none ∨ c.task = none → ∀ x ∈ xs, x.request.isForTask = false

theorem handlesTask_of_accurate {c : DeployConfig} {xs : List Call} {report : DeployReport}
    (hcheck : c.checkTask = .ok ()) (h : Accurate c xs report) : HandlesTask c xs report := by
  have hsteps : report.steps = xs.map Call.outcome := by
    rw [h.steps_eq, unbuilt_eq_nil hcheck, List.append_nil]
  refine ⟨hsteps, fun step reason => exists_call_of_failure hsteps, ?_, ?_⟩
  · intro dps task hdps htask
    obtain ⟨htopic, message, hmessage⟩ := DeployConfig.checkTask_ok_iff.1 hcheck dps task hdps htask
    refine ⟨htopic, serviceRequests c, message, hmessage, isForTask_serviceRequests c, ?_⟩
    rw [h.requests_eq, requestsOf_of_submittable hdps htask hmessage]
  · intro hmissing x hx
    have hrequest : x.request ∈ requestsOf c := h.requests_eq ▸ List.mem_map_of_mem hx
    rw [requestsOf_of_undispatched hmissing] at hrequest
    exact isForTask_serviceRequests c _ hrequest

/-- Reading a configuration decides about its task.  Once accepted, the task is permitted and
submitted by the last two calls, and no call is for a task that is not configured; and nothing but
a task that cannot be submitted is a reason to refuse a text of the right structure whose proxy, if
there is one, is a host and a port. -/
theorem submission_settled_by_reading (text : String) :
    (∀ c, DeployConfig.ofText text = .ok c →
      ∀ {σ : Type} (peer : Peer Request Reply σ) (s : σ),
        HandlesTask c ((run c).run peer s).exchanges ((run c).run peer s).value) ∧
    (∀ c, DeployConfig.parse text = .ok c →
      (∀ p, c.proxy = some p → Proxy.isWellFormed p = true) →
      ((∃ problem, DeployConfig.ofText text = .error problem) ↔ c.Unsubmittable)) := by
  constructor
  · intro c haccepted σ peer s
    obtain ⟨-, hvalid⟩ := DeployConfig.ofText_ok_iff.1 haccepted
    have hcheck := DeployConfig.checkTask_of_validate hvalid
    exact handlesTask_of_accurate hcheck (trace_run_accurate (trace_run peer (run c) s))
  · intro c hparse hproxy
    exact DeployConfig.ofText_error_iff hparse hproxy

def taskText (topic : String) : String :=
  "\x7b\"dps\":\"http://d\",\"task\":\x7b\"topic\":\"" ++ topic ++
  "\",\"taskName\":\"NewFile\",\"fileUrl\":\"http://f\"\x7d\x7d"

def taskOf (topic : String) : TaskSection :=
  ⟨topic, newFileTask, "", "", "http://f", "", "", "", "", "", "", "", ""⟩

def taskDeployment (topic : String) : DeployConfig :=
  ⟨none, none, none, none, none, none, none, none, [], none, [], some "http://d",
    some (taskOf topic), none⟩

/-- A service that finds fault with the topology of every task and does all else. -/
def faultFindingPeer : Peer Request Reply Unit where
  reply s
    | .createSearchCore _ => (.ok (), s)
    | .putIndexMapping _ => (.ok (), s)
    | .createTopic .. => (.ok (), s)
    | .submitTopology .. => (.ok (), s)
    | .permitTopology .. => (.error (.invalidTask "x"), s)
    | .submitTask .. => (.ok none, s)

/-- A task is submitted although its user was not permitted; one with a blank topic is refused. -/
theorem submission_settled_by_reading_sample :
    DeployConfig.ofText (taskText "t") = .ok (taskDeployment "t") ∧
      HandlesTask (taskDeployment "t") ((run (taskDeployment "t")).run faultFindingPeer ()).exchanges
        ((run (taskDeployment "t")).run faultFindingPeer ()).value ∧
      DeployConfig.parse (taskText " ") = .ok (taskDeployment " ") ∧
      ∃ problem, DeployConfig.ofText (taskText " ") = .error problem := by
  have haccepted : DeployConfig.ofText (taskText "t") = .ok (taskDeployment "t") := rfl
  have hread : DeployConfig.parse (taskText " ") = .ok (taskDeployment " ") := rfl
  have hblank : (taskDeployment " ").Unsubmittable :=
    ⟨"http://d", taskOf " ", rfl, rfl, .inl (by decide)⟩
  have hhandled := (submission_settled_by_reading (taskText "t")).1 _ haccepted faultFindingPeer ()
  have hrefused := (submission_settled_by_reading (taskText " ")).2 _ hread (fun _ => nofun)
  exact ⟨haccepted, hhandled, hread, hrefused.2 hblank⟩

/-- A service may itself call a task invalid, and the report then says so. -/
theorem invalidTask_answered :
    DeployConfig.ofText (taskText "t") = .ok (taskDeployment "t") ∧
      (.permitTopology "t", .invalidTask "x") ∈
        ((run (taskDeployment "t")).run faultFindingPeer ()).value.failures :=
  ⟨rfl, by decide⟩

end Deployment

end Ingest
