import Ingest.Deployment
import Ingest.Proofs.Dialogue.Trace
/-!
# The steps of a deployment

Which requests a deployment makes is read from its configuration: nothing that a service answers
adds, drops or changes one.  The report has a step for every call, in the order of the calls, with
the failure of that call; a task that cannot be built adds the one step that has no call.
-/

namespace Ingest.Deployment

open Provision Dialogue

abbrev Call := Exchange Request Reply

/-! ## Calls -/

def stepOf : Request → Step
  | .createSearchCore _ => .searchCore
  | .putIndexMapping _ => .indexMapping
  | .createTopic _ _ topic => .topic topic
  | .submitTopology _ t => .topology t.name
  | .permitTopology _ topic _ => .permitTopology topic
  | .submitTask _ topic _ _ => .submitTask topic

namespace Call

def error? (x : Call) : Option ProvisionError :=
  match x.reply with
  | .ok _ => none
  | .error e => some e

def outcome (x : Call) : StepOutcome := ⟨stepOf x.request, x.error?⟩

def location? : Call → Option String
  | ⟨.submitTask .., .ok location⟩ => location
  | _ => none

theorem outcome_mk (q : Request) (reply : Reply q) :
    outcome ⟨q, reply⟩ = ⟨stepOf q, failure? reply⟩ := by
  cases reply <;> rfl

end Call

/-! ## Configured requests -/

def userOf (task : TaskSection) : Credentials := ⟨task.login, task.password⟩

/-- The requests for a task; one that cannot be built is not submitted. -/
def taskRequests (dps : String) (task : TaskSection) : List Request :=
  .permitTopology dps task.topic (userOf task) ::
    match TaskMessage.ofSection task with
    | .ok message => [.submitTask dps task.topic message (userOf task)]
    | .error _ => []

def serviceRequests (c : DeployConfig) : List Request :=
  (match c.solrHome, c.coreName with
    | some home, some name => [.createSearchCore ⟨home, name⟩]
    | _, _ => []) ++
  (match c.elasticsearchUrl, c.indexName, c.typeName with
    | some url, some name, some typeName => [.putIndexMapping ⟨url, name, typeName⟩]
    | _, _, _ => []) ++
  (match c.kafkaHome, c.zookeeper with
    | some home, some zookeeper => c.topics.map fun topic => .createTopic home zookeeper topic
    | _, _ => []) ++
  (match c.stormHome with
    | some home => (c.topologies.filter (·.isComplete)).map fun t => .submitTopology home t
    | none => [])

def requestsOf (c : DeployConfig) : List Request :=
  serviceRequests c ++
    match c.dps, c.task with
    | some dps, some task => taskRequests dps task
    | _, _ => []

def unbuiltTask (task : TaskSection) : List StepOutcome :=
  match TaskMessage.ofSection task with
  | .ok _ => []
  | .error lack => [⟨.submitTask task.topic, some (.invalidTask (ConfigProblem.lack lack).message)⟩]

/-- The step without a call that a deployment may report. -/
def unbuilt (c : DeployConfig) : List StepOutcome :=
  match c.dps, c.task with
  | some _, some task => unbuiltTask task
  | _, _ => []

/-! ## Preparing -/

structure Preparation.Fits (p : Preparation) : Prop where
  step_eq : p.step = stepOf p.request
  location_eq : ∀ reply, Call.location? ⟨p.request, reply⟩ = none

theorem prepareEach_trace {ps : List Preparation} {xs : List Call} {outcomes : List StepOutcome}
    (hps : ∀ p ∈ ps, p.Fits) (h : (prepareEach ps).Trace xs outcomes) :
    xs.map (·.request) = ps.map (·.request) ∧ outcomes = xs.map Call.outcome ∧
      ∀ x ∈ xs, x.location? = none := by
  induction ps generalizing xs outcomes with
  | nil =>
      obtain ⟨rfl, rfl⟩ := trace_done_iff.1 h
      simp
  | cons p ps ih =>
      rw [List.forall_mem_cons] at hps
      simp only [prepareEach, prepare, ask_bind, done_bind, trace_ask_iff, trace_bind_iff,
        pure_eq_done, trace_done_iff] at h
      obtain ⟨reply, _, rfl, rest, ys, _, rfl, hrest, rfl, rfl⟩ := h
      obtain ⟨hrequests, rfl, hlocations⟩ := ih hps.2 hrest
      refine ⟨by simp [hrequests], by simp [Call.outcome_mk, hps.1.step_eq], ?_⟩
      rw [List.append_nil, List.forall_mem_cons]
      exact ⟨hps.1.location_eq reply, hlocations⟩

theorem preparations_fit (c : DeployConfig) : ∀ p ∈ preparations c, p.Fits := by
  intro p hp
  simp only [preparations, List.mem_append, List.mem_map, List.mem_flatMap] at hp
  obtain ((⟨core, -, rfl⟩ | ⟨index, -, rfl⟩) | ⟨q, -, topic, -, rfl⟩) | ⟨home, -, t, -, rfl⟩ := hp
  all_goals exact ⟨rfl, fun _ => rfl⟩

/-- Without topics there is no queue to prepare, and no request either way. -/
theorem queueTopics_requests (c : DeployConfig) :
    (c.queueTopics.toList.flatMap fun q =>
      q.topics.map fun topic => Request.createTopic q.home q.zookeeper topic) =
      match c.kafkaHome, c.zookeeper with
      | some home, some zookeeper => c.topics.map fun topic => .createTopic home zookeeper topic
      | _, _ => [] := by
  cases htopics : c.topics with
  | nil =>
      have hnone : c.queueTopics = none := by
        rw [DeployConfig.queueTopics, htopics]
        rfl
      rw [hnone]
      cases c.kafkaHome <;> cases c.zookeeper <;> rfl
  | cons topic topics =>
      have hsome : c.queueTopics = (do
          let home ← c.kafkaHome
          let zookeeper ← c.zookeeper
          return ⟨home, zookeeper, topic :: topics⟩) := by
        rw [DeployConfig.queueTopics, htopics]
        rfl
      rw [hsome]
      cases c.kafkaHome <;> cases c.zookeeper <;> simp

theorem preparations_requests (c : DeployConfig) :
    (preparations c).map (·.request) = serviceRequests c := by
  have hcore : c.searchCore.toList.map Request.createSearchCore =
      match c.solrHome, c.coreName with
      | some home, some name => [.createSearchCore ⟨home, name⟩]
      | _, _ => [] := by
    cases hhome : c.solrHome <;> cases hname : c.coreName <;>
      simp [DeployConfig.searchCore, hhome, hname]
  have hindex : c.searchIndex.toList.map Request.putIndexMapping =
      match c.elasticsearchUrl, c.indexName, c.typeName with
      | some url, some name, some typeName => [.putIndexMapping ⟨url, name, typeName⟩]
      | _, _, _ => [] := by
    cases hurl : c.elasticsearchUrl <;> cases hname : c.indexName <;> cases htype : c.typeName <;>
      simp [DeployConfig.searchIndex, hurl, hname, htype]
  have htopologies : (c.stormHome.toList.flatMap fun home =>
      c.completeTopologies.map fun t => Request.submitTopology home t) =
      match c.stormHome with
      | some home => (c.topologies.filter (·.isComplete)).map fun t => .submitTopology home t
      | none => [] := by
    cases c.stormHome <;> simp [DeployConfig.completeTopologies]
  rw [serviceRequests, ← hcore, ← hindex, ← queueTopics_requests, ← htopologies]
  simp only [preparations, List.map_append, List.map_flatMap, List.map_map]
  rfl

/-! ## The task -/

theorem dispatch_eq (dps : String) (task : TaskSection) :
    dispatch dps task = .ask (.permitTopology dps task.topic (userOf task)) fun permitted =>
      match TaskMessage.ofSection task with
      | .ok message =>
        .ask (.submitTask dps task.topic message (userOf task))
          fun (submitted : Except ProvisionError (Option String)) =>
            .done ⟨[⟨.permitTopology task.topic, failure? permitted⟩,
              ⟨.submitTask task.topic, failure? submitted⟩], submitted.toOption.join⟩
      | .error lack =>
        .done ⟨[⟨.permitTopology task.topic, failure? permitted⟩,
          ⟨.submitTask task.topic, some (.invalidTask (ConfigProblem.lack lack).message)⟩],
            none⟩ := by
  simp only [dispatch, submit]
  cases TaskMessage.ofSection task <;> rfl

theorem trace_dispatch {dps : String} {task : TaskSection} {xs : List Call} {report : DeployReport}
    (h : (dispatch dps task).Trace xs report) :
    xs.map (·.request) = taskRequests dps task ∧
      report.steps = xs.map Call.outcome ++ unbuiltTask task ∧
      report.taskLocation = xs.findSome? Call.location? := by
  rw [dispatch_eq] at h
  obtain ⟨permitted, ys, rfl, hrest⟩ := trace_ask_iff.1 h
  cases hmessage : TaskMessage.ofSection task with
  | ok message =>
      simp only [hmessage] at hrest
      obtain ⟨submitted, zs, rfl, hlast⟩ := trace_ask_iff.1 hrest
      obtain ⟨rfl, rfl⟩ := trace_done_iff.1 hlast
      refine ⟨by simp [taskRequests, hmessage], ?_, ?_⟩
      · simp only [List.map_cons, List.map_nil, Call.outcome_mk, unbuiltTask, hmessage,
          List.append_nil]
        rfl
      · cases submitted with
        | error e => rfl
        | ok location => cases location <;> rfl
  | error lack =>
      simp only [hmessage] at hrest
      obtain ⟨rfl, rfl⟩ := trace_done_iff.1 hrest
      refine ⟨by simp [taskRequests, hmessage], ?_, rfl⟩
      simp [Call.outcome_mk, stepOf, unbuiltTask, hmessage]

theorem trace_dispatchTask {c : DeployConfig} {xs : List Call} {report : DeployReport}
    (h : (dispatchTask c).Trace xs report) :
    (serviceRequests c ++ xs.map (·.request) = requestsOf c) ∧
      report.steps = xs.map Call.outcome ++ unbuilt c ∧
      report.taskLocation = xs.findSome? Call.location? := by
  cases hdps : c.dps with
  | none =>
      simp only [dispatchTask, DeployConfig.dispatch, hdps, Option.bind_eq_bind, Option.bind_none,
        trace_done_iff] at h
      obtain ⟨rfl, rfl⟩ := h
      simp [requestsOf, unbuilt, hdps]
  | some dps =>
      cases htask : c.task with
      | none =>
          simp only [dispatchTask, DeployConfig.dispatch, hdps, htask, Option.bind_eq_bind,
            Option.bind_some, Option.bind_none, trace_done_iff] at h
          obtain ⟨rfl, rfl⟩ := h
          simp [requestsOf, unbuilt, hdps, htask]
      | some task =>
          have hdispatch : c.dispatch = some (dps, task) := by
            simp [DeployConfig.dispatch, hdps, htask]
          simp only [dispatchTask, hdispatch] at h
          obtain ⟨hrequests, hsteps, hlocation⟩ := trace_dispatch h
          exact ⟨by simp [requestsOf, hdps, htask, hrequests],
            by simpa [unbuilt, hdps, htask] using hsteps, hlocation⟩

/-! ## Deployments -/

/-- What holds of the calls and the report of every deployment with a configuration. -/
structure Accurate (c : DeployConfig) (xs : List Call) (report : DeployReport) : Prop where
  requests_eq : xs.map (·.request) = requestsOf c
  /-- Each step is that of a call, with the failure of the call. -/
  steps_eq : report.steps = xs.map Call.outcome ++ unbuilt c
  /-- Only the submission of a task has a location, if it succeeds and the service gives one. -/
  location_eq : report.taskLocation = xs.findSome? Call.location?

theorem trace_run_accurate {c : DeployConfig} {xs : List Call} {report : DeployReport}
    (h : (run c).Trace xs report) : Accurate c xs report := by
  obtain ⟨prepared, ys, rest, rfl, hprepared, h⟩ := trace_bind_iff.1 h
  obtain ⟨dispatched, zs, _, rfl, hdispatched, h⟩ := trace_bind_iff.1 h
  obtain ⟨rfl, rfl⟩ := trace_done_iff.1 h
  obtain ⟨hrequests, rfl, hnone⟩ := prepareEach_trace (preparations_fit c) hprepared
  obtain ⟨hrest, hsteps, hlocation⟩ := trace_dispatchTask hdispatched
  rw [preparations_requests] at hrequests
  have hfind : ys.findSome? Call.location? = none := by simpa using hnone
  rw [List.append_nil]
  refine ⟨?_, ?_, ?_⟩
  · rw [List.map_append, hrequests, hrest]
  · simp [hsteps]
  · rw [List.findSome?_append, hfind, Option.none_or]
    exact hlocation

/-- Whatever the services answer, the same calls are made and the same steps are recorded: those
that the configuration asks for. -/
theorem run_independent_of_outcomes {σ σ' : Type} (peer : Peer Request Reply σ)
    (peer' : Peer Request Reply σ') (s : σ) (s' : σ') (c : DeployConfig) :
    ((run c).run peer s).requests = ((run c).run peer' s').requests ∧
      ((run c).run peer s).value.steps.map (·.step) =
        ((run c).run peer' s').value.steps.map (·.step) ∧
      Accurate c ((run c).run peer s).exchanges ((run c).run peer s).value := by
  have h := trace_run_accurate (trace_run peer (run c) s)
  have h' := trace_run_accurate (trace_run peer' (run c) s')
  have hsteps : ∀ xs : List Call,
      (xs.map Call.outcome).map (·.step) = (xs.map (·.request)).map stepOf := by
    intro xs
    rw [List.map_map, List.map_map]
    rfl
  refine ⟨h.requests_eq.trans h'.requests_eq.symm, ?_, h⟩
  rw [h.steps_eq, h'.steps_eq, List.map_append, List.map_append, hsteps, hsteps, h.requests_eq,
    h'.requests_eq]

end Ingest.Deployment
