import Ingest.Proofs.Deployment.Submission
import Ingest.Proofs.Json.Entries
import Ingest.Proofs.Json.Following
/-!
# The names in the requests of a deployment

A request names what it is about: homes, addresses, cores, topics, topologies.  The keys of a
deployment that are blank count as absent, a topology without a name is not submitted, and a task
without a topic is refused, so these names are all given.  The topics of the queue are the
exception: they are taken as they are listed.
-/

namespace Ingest

open Json

def Provision.Request.names : Provision.Request → List String
  | .createSearchCore core => [core.home, core.name]
  | .putIndexMapping index => [index.url, index.name, index.typeName]
  | .createTopic home zookeeper topic => [home, zookeeper, topic]
  | .submitTopology home topology => [home, topology.jar, topology.mainClass, topology.name]
  | .permitTopology dps topic _ => [dps, topic]
  | .submitTask dps topic _ _ => [dps, topic]

theorem Text.ne_empty_of_not_blank {s : String} (h : Text.isBlank s = false) : s ≠ "" := by
  rintro rfl
  exact absurd h (by decide)

namespace DeployConfig

/-! ## Settings -/

/-- The settings of the services, which count as absent when they are blank. -/
def settings (c : DeployConfig) : List (Option String) :=
  [c.solrHome, c.coreName, c.elasticsearchUrl, c.indexName, c.typeName, c.kafkaHome, c.zookeeper,
    c.stormHome, c.dps]

theorem not_blank_of_reader {depth : Nat} {node : Node} {c : DeployConfig}
    (h : reader depth node = .ok c) {s : String} (hs : some s ∈ c.settings) :
    Text.isBlank s = false := by
  obtain ⟨t, hrecord, rfl⟩ := map_eq_ok_iff.1 h
  obtain ⟨-, hsolrHome, hcoreName, hsearchUrl, hindexName, htypeName, hkafkaHome, hzookeeper, -,
    hstormHome, -, hdps, -⟩ := Reader.readFrom_of_record (by decide) hrecord
  simp only [settings, List.mem_cons, List.not_mem_nil, or_false] at hs
  rcases hs with hs | hs | hs | hs | hs | hs | hs | hs | hs
  · exact hsolrHome.not_blank hs.symm
  · exact hcoreName.not_blank hs.symm
  · exact hsearchUrl.not_blank hs.symm
  · exact hindexName.not_blank hs.symm
  · exact htypeName.not_blank hs.symm
  · exact hkafkaHome.not_blank hs.symm
  · exact hzookeeper.not_blank hs.symm
  · exact hstormHome.not_blank hs.symm
  · exact hdps.not_blank hs.symm

/-- The settings that an accepted configuration gives are not empty. -/
theorem setting_ne_empty {text : String} {c : DeployConfig} (h : ofText text = .ok c) {s : String}
    (hs : some s ∈ c.settings) : s ≠ "" := by
  obtain ⟨hparse, -⟩ := ofText_ok_iff.1 h
  obtain ⟨hread, -⟩ := Reader.ofText_ok_iff.1 hparse
  exact Text.ne_empty_of_not_blank (not_blank_of_reader hread hs)

def ListsUnnamedTopic (c : DeployConfig) : Prop :=
  c.kafkaHome ≠ none ∧ c.zookeeper ≠ none ∧ "" ∈ c.topics

end DeployConfig

namespace Deployment

open Provision Dialogue

/-! ## Requests -/

theorem mem_serviceRequests_iff {c : DeployConfig} {q : Request} :
    q ∈ serviceRequests c ↔
      (∃ home name, c.solrHome = some home ∧ c.coreName = some name ∧
        q = .createSearchCore ⟨home, name⟩) ∨
      (∃ url name typeName, c.elasticsearchUrl = some url ∧ c.indexName = some name ∧
        c.typeName = some typeName ∧ q = .putIndexMapping ⟨url, name, typeName⟩) ∨
      (∃ home zookeeper topic, c.kafkaHome = some home ∧ c.zookeeper = some zookeeper ∧
        topic ∈ c.topics ∧ q = .createTopic home zookeeper topic) ∨
      ∃ home t, c.stormHome = some home ∧ t ∈ c.topologies ∧ t.isComplete = true ∧
        q = .submitTopology home t := by
  simp only [serviceRequests, List.mem_append, or_assoc]
  refine or_congr ?_ (or_congr ?_ (or_congr ?_ ?_))
  · cases c.solrHome <;> cases c.coreName <;> simp
  · cases c.elasticsearchUrl <;> cases c.indexName <;> cases c.typeName <;> simp
  · cases c.kafkaHome <;> cases c.zookeeper <;> simp [@eq_comm _ q]
  · cases c.stormHome <;> simp [and_assoc, @eq_comm _ q]

theorem mem_requestsOf_iff {c : DeployConfig} {q : Request} :
    q ∈ requestsOf c ↔ q ∈ serviceRequests c ∨
      ∃ dps task, c.dps = some dps ∧ c.task = some task ∧ q ∈ taskRequests dps task := by
  rw [requestsOf, List.mem_append]
  cases c.dps <;> cases c.task <;> simp

theorem names_of_taskRequests {dps : String} {task : TaskSection} {q : Request}
    (h : q ∈ taskRequests dps task) : q.names = [dps, task.topic] := by
  unfold taskRequests at h
  rcases List.mem_cons.1 h with rfl | h
  · rfl
  · cases hmessage : TaskMessage.ofSection task with
    | error lack => simp [hmessage] at h
    | ok message =>
      simp only [hmessage, List.mem_singleton] at h
      rw [h]
      rfl

theorem createTopic_mem_iff {c : DeployConfig} {home zookeeper topic : String} :
    Request.createTopic home zookeeper topic ∈ requestsOf c ↔
      c.kafkaHome = some home ∧ c.zookeeper = some zookeeper ∧ topic ∈ c.topics := by
  have hservice : Request.createTopic home zookeeper topic ∈ serviceRequests c ↔
      c.kafkaHome = some home ∧ c.zookeeper = some zookeeper ∧ topic ∈ c.topics := by
    simp only [mem_serviceRequests_iff, reduceCtorEq, and_false, exists_false, false_or, or_false,
      Request.createTopic.injEq]
    constructor
    · rintro ⟨_, _, _, hhome, hzookeeper, htopic, rfl, rfl, rfl⟩
      exact ⟨hhome, hzookeeper, htopic⟩
    · rintro ⟨hhome, hzookeeper, htopic⟩
      exact ⟨home, zookeeper, topic, hhome, hzookeeper, htopic, rfl, rfl, rfl⟩
  rw [mem_requestsOf_iff, hservice, or_iff_left]
  rintro ⟨dps, task, -, -, h⟩
  -- The requests for a task have two names only.
  have hnames := names_of_taskRequests h
  simp [Request.names] at hnames

theorem names_of_isComplete {t : Topology} (h : t.isComplete = true) :
    t.jar ≠ "" ∧ t.mainClass ≠ "" ∧ t.name ≠ "" := by
  simp only [Topology.isComplete, Bool.and_eq_true, Bool.not_eq_true',
    String.isEmpty_eq_false_iff] at h
  exact ⟨h.1.1, h.1.2, h.2⟩

/-- The request is for a topic without a name, in a queue with a home and an address. -/
def IsUnnamedTopic (q : Request) : Prop :=
  ∃ home zookeeper, home ≠ "" ∧ zookeeper ≠ "" ∧ q = .createTopic home zookeeper ""

/-- The only name that an accepted configuration leaves empty is that of a topic. -/
theorem isUnnamedTopic_of_empty {text : String} {c : DeployConfig}
    (h : DeployConfig.ofText text = .ok c) {q : Request} (hq : q ∈ requestsOf c)
    (hempty : "" ∈ q.names) : IsUnnamedTopic q := by
  have hgiven : ∀ s, some s ∈ c.settings → "" ≠ s := fun _ hs =>
    (DeployConfig.setting_ne_empty h hs).symm
  simp only [DeployConfig.settings, List.mem_cons, List.not_mem_nil, or_false] at hgiven
  rcases mem_requestsOf_iff.1 hq with hq | ⟨dps, task, hdps, htask, hq⟩
  · rcases mem_serviceRequests_iff.1 hq with ⟨home, name, hhome, hname, rfl⟩ |
      ⟨url, name, typeName, hurl, hname, htype, rfl⟩ |
      ⟨home, zookeeper, topic, hhome, hzookeeper, -, rfl⟩ | ⟨home, t, hhome, -, hcomplete, rfl⟩
    · have hhome := hgiven home (by simp [hhome])
      have hname := hgiven name (by simp [hname])
      simp [Request.names, hhome, hname] at hempty
    · have hurl := hgiven url (by simp [hurl])
      have hname := hgiven name (by simp [hname])
      have htype := hgiven typeName (by simp [htype])
      simp [Request.names, hurl, hname, htype] at hempty
    · have hhome := hgiven home (by simp [hhome])
      have hzookeeper := hgiven zookeeper (by simp [hzookeeper])
      have htopic : "" = topic := by simpa [Request.names, hhome, hzookeeper] using hempty
      exact ⟨home, zookeeper, hhome.symm, hzookeeper.symm, by rw [htopic]⟩
    · have hhome := hgiven home (by simp [hhome])
      obtain ⟨hjar, hclass, hname⟩ := names_of_isComplete hcomplete
      simp [Request.names, hhome, hjar.symm, hclass.symm, hname.symm] at hempty
  · obtain ⟨-, hvalid⟩ := DeployConfig.ofText_ok_iff.1 h
    have hcheck := DeployConfig.checkTask_of_validate hvalid
    obtain ⟨htopic, -⟩ := DeployConfig.checkTask_ok_iff.1 hcheck dps task hdps htask
    have hdps := hgiven dps (by simp [hdps])
    have htopic := (Text.ne_empty_of_not_blank htopic).symm
    simp [names_of_taskRequests hq, hdps, htopic] at hempty

theorem exists_empty_iff {text : String} {c : DeployConfig}
    (h : DeployConfig.ofText text = .ok c) :
    (∃ q ∈ requestsOf c, "" ∈ q.names) ↔ c.ListsUnnamedTopic := by
  constructor
  · rintro ⟨q, hq, hempty⟩
    obtain ⟨home, zookeeper, -, -, rfl⟩ := isUnnamedTopic_of_empty h hq hempty
    obtain ⟨hhome, hzookeeper, htopic⟩ := createTopic_mem_iff.1 hq
    exact ⟨by simp [hhome], by simp [hzookeeper], htopic⟩
  · rintro ⟨hhome, hzookeeper, htopic⟩
    obtain ⟨home, hhome⟩ := Option.ne_none_iff_exists'.1 hhome
    obtain ⟨zookeeper, hzookeeper⟩ := Option.ne_none_iff_exists'.1 hzookeeper
    refine ⟨.createTopic home zookeeper "", ?_, by simp [Request.names]⟩
    exact createTopic_mem_iff.2 ⟨hhome, hzookeeper, htopic⟩

/-! ## Calls -/

/-- Every name in a call of a deployment is given, except that a topic is created without a name
where one is listed so.  Without such a topic no call has an empty name. -/
theorem calls_named_but_for_topics {text : String} {c : DeployConfig}
    (h : DeployConfig.ofText text = .ok c) {σ : Type} (peer : Peer Request Reply σ) (s : σ) :
    (∀ x ∈ ((run c).run peer s).exchanges, "" ∈ x.request.names → IsUnnamedTopic x.request) ∧
      ((∀ x ∈ ((run c).run peer s).exchanges, "" ∉ x.request.names) ↔ ¬c.ListsUnnamedTopic) := by
  have hrequests := (trace_run_accurate (trace_run peer (run c) s)).requests_eq
  have hcalls : ∀ P : Request → Prop,
      (∀ x ∈ ((run c).run peer s).exchanges, P x.request) ↔ ∀ q ∈ requestsOf c, P q := by
    intro P
    rw [← hrequests, List.forall_mem_map]
  rw [hcalls (fun q => "" ∈ q.names → IsUnnamedTopic q), hcalls (fun q => "" ∉ q.names)]
  constructor
  · intro q hq
    exact isUnnamedTopic_of_empty h hq
  · rw [← exists_empty_iff h]
    simp only [not_exists, not_and]

def topicText (topic : String) : String :=
  "\x7b\"kafkaHome\":\"/k\",\"zookeeper\":\"z\",\"topics\":[\"" ++ topic ++ "\"]\x7d"

def topicDeployment (topic : String) : DeployConfig :=
  ⟨none, none, none, none, none, none, some "/k", some "z", [topic], none, [], none, none, none⟩

/-- A queue with a topic that has a name: all calls have their names. -/
theorem calls_named_but_for_topics_sample :
    DeployConfig.ofText (topicText "t") = .ok (topicDeployment "t") ∧
      ∀ x ∈ ((run (topicDeployment "t")).run faultFindingPeer ()).exchanges,
        "" ∉ x.request.names := by
  have haccepted : DeployConfig.ofText (topicText "t") = .ok (topicDeployment "t") := rfl
  have hnamed : ¬(topicDeployment "t").ListsUnnamedTopic := by
    rintro ⟨-, -, htopic⟩
    exact absurd htopic (by decide)
  have hcalls := calls_named_but_for_topics haccepted faultFindingPeer ()
  exact ⟨haccepted, hcalls.2.2 hnamed⟩

/-- A topic without a name is asked for. -/
theorem topic_created_without_name :
    DeployConfig.ofText (topicText "") = .ok (topicDeployment "") ∧
      ∃ x ∈ ((run (topicDeployment "")).run faultFindingPeer ()).exchanges,
        "" ∈ x.request.names :=
  ⟨rfl, ⟨.createTopic "/k" "z" "", .ok ()⟩, .head _, by decide⟩

end Deployment

end Ingest
