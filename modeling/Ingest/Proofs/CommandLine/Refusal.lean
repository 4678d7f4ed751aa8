import Ingest.Media.Common
import Ingest.Proofs.CommandLine.Importing
import Ingest.Proofs.CommandLine.Startup
import Ingest.Proofs.Config.Acceptance
/-!
# Refusing or going through

A tool refuses to start when its arguments or its configurations leave something to be desired, and
has then only looked and complained.  Otherwise it goes through to its end, whatever the programs
and servers answer: the exit code tells the two apart.
-/

namespace Ingest.CommandLine

open World Dialogue

section Refusing

variable (disk : Disk) (environment : Settings.Variables) (arguments : List String)

def NoImport (path : Path) : Prop :=
  importAt disk environment path = none ∨
    ∃ c problem, importAt disk environment path = some c ∧
      Repository.Client.build c = .error problem

/-- The reasons for which a tool refuses to start. -/
inductive Refused : Tool → Prop
  | usage {t : Tool} {problem : UsageProblem} (hproblem : configPath arguments = .error problem) :
      Refused t
  | noImport {path : Path} (hpath : configPath arguments = .ok path)
      (himport : NoImport disk environment path) : Refused .importData
  | noDeployment {path : Path} (hpath : configPath arguments = .ok path)
      (hnone : deploymentAt disk path = none) : Refused .prepareAll
  | noPending {path : Path} {c : DeployConfig} {name : String}
      (hpath : configPath arguments = .ok path) (hc : deploymentAt disk path = some c)
      (hname : c.importConfigFile = some name)
      (himport : NoImport disk environment (beside path name)) : Refused .prepareAll
  | noServices {path : Path} {c : DeployConfig} {problem : Url.Problem}
      (hpath : configPath arguments = .ok path) (hc : deploymentAt disk path = some c)
      (hproblem : Provision.Services.build c.proxy = .error problem) : Refused .prepareAll

/-- The import that follows a deployment: there is one if and only if the deployment names its
configuration. -/
inductive Pending (path : Path) (c : DeployConfig) : Option ReadyImport → Prop
  | none (hnone : c.importConfigFile = none) : Pending path c none
  | some {name : String} {ready : ReadyImport} (hname : c.importConfigFile = some name)
      (hconfig : importAt disk environment (beside path name) = some ready.config)
      (hclient : Repository.Client.build ready.config = .ok ready.client) :
      Pending path c (some ready)

end Refusing

section GoingThrough

variable {σ : Type} (peer : Peer Request Reply σ) (s : σ) (entropy : ImportEntropy)

inductive ImportsPending [Media.Guess] : Option ReadyImport → List Event → Prop
  | none : ImportsPending none []
  | some {ready : ReadyImport} {imported : List Event}
      (himported : Imports peer s entropy ready.client ready.config imported) :
      ImportsPending (some ready) imported

/-- What a tool that goes through exchanges with the world: it looks, and then it does its work
part by part, each from the state in which the part before it has left the world. -/
inductive GoesThrough [Media.Guess] (environment : Settings.Variables) (arguments : List String) :
    Tool → List Event → Prop
  | importData {path : Path} {c : ImportConfig} {client : Repository.Client}
      {looking imported : List Event}
      (hpath : configPath arguments = .ok path)
      (hconfig : importAt (filesOf peer s) environment path = some c)
      (hclient : Repository.Client.build c = .ok client)
      (hlooking : ∀ x ∈ looking, x.request.isEffect = false)
      (himported : Imports peer s entropy client c imported) :
      GoesThrough environment arguments .importData (looking ++ imported)
  | prepareAll {path : Path} {c : DeployConfig} {services : Provision.Services}
      {pending : Option ReadyImport} {looking imported : List Event}
      {deployed : Outcome Request Reply σ DeployReport}
      (hpath : configPath arguments = .ok path)
      (hconfig : deploymentAt (filesOf peer s) path = some c)
      (hservices : Provision.Services.build c.proxy = .ok services)
      (hpending : Pending (filesOf peer s) environment path c pending)
      (hlooking : ∀ x ∈ looking, x.request.isEffect = false)
      (hdeployed : deployed = (services.carryOut (Deployment.run c)).run peer s)
      (himported : ImportsPending peer
        (afterShowing peer deployed.state (deployLines deployed.value)) entropy pending imported) :
      GoesThrough environment arguments .prepareAll
        (looking ++ deployed.exchanges ++ shown (deployLines deployed.value) ++ imported)

end GoingThrough

/-! ## Being ready -/

section Ready

variable {disk : Disk} {environment : Settings.Variables}

theorem readyImportAt_eq_none_iff {path : Path} :
    readyImportAt disk environment path = none ↔ NoImport disk environment path := by
  rw [readyImportAt, NoImport]
  cases importAt disk environment path <;> simp

theorem build_of_readyImportAt {path : Path} {ready : ReadyImport}
    (h : readyImportAt disk environment path = some ready) :
    importAt disk environment path = some ready.config ∧
      Repository.Client.build ready.config = .ok ready.client := by
  obtain ⟨c, hc, hready⟩ := Option.bind_eq_some_iff.1 h
  obtain ⟨client, hclient, rfl⟩ := Option.map_eq_some_iff.1 hready
  exact ⟨hc, toOption_eq_some_iff.1 hclient⟩

theorem readyPendingAt_eq_none_iff {path : Path} {c : DeployConfig} :
    readyPendingAt disk environment path c = none ↔
      ∃ name, c.importConfigFile = some name ∧ NoImport disk environment (beside path name) := by
  simp only [readyPendingAt]
  cases c.importConfigFile with
  | none => simp
  | some name => simp [readyImportAt_eq_none_iff]

theorem pending_of_readyPendingAt {path : Path} {c : DeployConfig} {pending : Option ReadyImport}
    (h : readyPendingAt disk environment path c = some pending) :
    Pending disk environment path c pending := by
  simp only [readyPendingAt] at h
  cases hname : c.importConfigFile with
  | none =>
      rw [hname] at h
      obtain rfl : none = pending := Option.some.inj h
      exact .none hname
  | some name =>
      rw [hname] at h
      obtain ⟨ready, hready, rfl⟩ := Option.map_eq_some_iff.1 h
      obtain ⟨hconfig, hclient⟩ := build_of_readyImportAt hready
      exact .some hname hconfig hclient

theorem readyDeploymentAt_eq_none_iff {path : Path} :
    readyDeploymentAt disk environment path = none ↔
      deploymentAt disk path = none ∨ ∃ c, deploymentAt disk path = some c ∧
        ((∃ name, c.importConfigFile = some name ∧
          NoImport disk environment (beside path name)) ∨
          ∃ problem, Provision.Services.build c.proxy = .error problem) := by
  rw [readyDeploymentAt]
  cases deploymentAt disk path with
  | none => simp
  | some c =>
      simp only [Option.bind_some, ← readyPendingAt_eq_none_iff]
      cases hpending : readyPendingAt disk environment path c <;> simp [hpending]

theorem build_of_readyDeploymentAt {path : Path} {ready : ReadyDeployment}
    (h : readyDeploymentAt disk environment path = some ready) :
    deploymentAt disk path = some ready.config ∧
      Provision.Services.build ready.config.proxy = .ok ready.services ∧
      Pending disk environment path ready.config ready.pending := by
  obtain ⟨c, hc, h⟩ := Option.bind_eq_some_iff.1 h
  obtain ⟨pending, hpending, h⟩ := Option.bind_eq_some_iff.1 h
  obtain ⟨services, hservices, rfl⟩ := Option.map_eq_some_iff.1 h
  exact ⟨hc, toOption_eq_some_iff.1 hservices, pending_of_readyPendingAt hpending⟩

end Ready

/-! ## Running a tool -/

section Running

variable {σ α : Type} {peer : Peer Request Reply σ} {s : σ}

def IsRefusal (o : Outcome Request Reply σ Nat) : Prop :=
  o.value = 2 ∧ ∀ x ∈ o.exchanges, x.request.acts = false

theorem isRefusal_of_looks {d : WorldDialogue α} {a : α} {f : α → WorldDialogue Nat}
    (h : Looks peer s d a) (hf : IsRefusal ((f a).run peer s)) :
    IsRefusal ((d >>= f).run peer s) := by
  rw [h.run_bind]
  refine ⟨hf.1, ?_⟩
  intro x hx
  rw [List.mem_append] at hx
  exact hx.elim (fun hx => Request.acts_eq_false (h.quiet x hx)) (hf.2 x)

/-- What is shown among the errors reaches someone. -/
def ShowsErrors (peer : Peer Request Reply σ) : Prop :=
  ∀ s text, (peer.reply s (.print .errors text)).1 = true

theorem isRefusal_complain (herrors : ShowsErrors peer) (text : String) :
    IsRefusal ((complain text).run peer s) := by
  simp [IsRefusal, complain, Dialogue.run, herrors s text, usageExitCode, Request.acts]

theorem isRefusal_explain (herrors : ShowsErrors peer) (t : Tool) (problem : UsageProblem) :
    IsRefusal ((explain t problem).run peer s) := by
  rw [explain]
  split
  · exact ⟨rfl, by simp [Dialogue.run, Request.acts]⟩
  · exact isRefusal_complain herrors _

variable [Media.Guess] {t : Tool} {arguments : List String}
  {environment settled : Settings.Variables} {entropy : ImportEntropy} {path : Path}

/-- A tool that does not start up breaks off, and has done nothing. -/
theorem program_breaksOff (hpeer : KeptByLooking peer)
    (hstart : ∀ settled, ¬StartsUp peer s environment settled) :
    ((program t arguments environment entropy).run peer s).value = 101 ∧
      ∀ x ∈ ((program t arguments environment entropy).run peer s).exchanges,
        x.request.acts = false := by
  obtain ⟨breakdown, hlook⟩ := looks_breakdown hpeer hstart
  rw [program, hlook.run_bind]
  refine ⟨rfl, ?_⟩
  intro x hx
  rw [List.mem_append] at hx
  refine hx.elim (fun hx => Request.acts_eq_false (hlook.quiet x hx)) fun hx => ?_
  obtain rfl := List.mem_singleton.1 hx
  rfl

theorem program_usage (hpeer : KeptByLooking peer) (herrors : ShowsErrors peer)
    (hstart : StartsUp peer s environment settled) {problem : UsageProblem}
    (hproblem : configPath arguments = .error problem) :
    IsRefusal ((program t arguments environment entropy).run peer s) := by
  refine isRefusal_of_looks (looks_startUp hpeer hstart) ?_
  simp only [hproblem]
  exact isRefusal_explain herrors t problem

theorem program_refused (hpeer : KeptByLooking peer) (herrors : ShowsErrors peer)
    (hstart : StartsUp peer s environment settled) (hpath : configPath arguments = .ok path)
    {problem : StartProblem} (hlook : Looks peer s (runTool t settled entropy path)
      (.error problem)) :
    IsRefusal ((program t arguments environment entropy).run peer s) := by
  refine isRefusal_of_looks (looks_startUp hpeer hstart) ?_
  simp only [hpath]
  exact isRefusal_of_looks hlook (isRefusal_complain herrors _)

/-- A tool that is not refused exits with zero, and its program adds nothing but looks. -/
theorem program_completed (hpeer : KeptByLooking peer)
    (hstart : StartsUp peer s environment settled) (hpath : configPath arguments = .ok path)
    (hdone : ((runTool t settled entropy path).run peer s).value = .ok ()) :
    ((program t arguments environment entropy).run peer s).value = 0 ∧
      ∃ looking, (∀ x ∈ looking, x.request.isEffect = false) ∧
        ((program t arguments environment entropy).run peer s).exchanges =
          looking ++ ((runTool t settled entropy path).run peer s).exchanges := by
  have hstarted := looks_startUp hpeer hstart
  refine ⟨?_, ((startUp environment).run peer s).exchanges, hstarted.quiet, ?_⟩
  · rw [program, hstarted.run_bind]
    simp only [hpath, run_bind, hdone]
    rfl
  · rw [program, hstarted.run_bind]
    simp only [hpath, run_bind, hdone]
    simp

theorem looks_importData (hpeer : KeptByLooking peer)
    (hready : readyImportAt (filesOf peer s) environment path = none) :
    ∃ problem, Looks peer s (runTool .importData environment entropy path) (.error problem) := by
  obtain ⟨problem, hrun⟩ : ∃ problem, Looks peer s (runImport environment entropy path)
      (.error problem) :=
    (finds_readyImport hpeer s environment path).looks_of_none hready fun _ => rfl
  exact ⟨problem, hrun.bind (.done (Except.error problem))⟩

theorem run_importData (hpeer : KeptByLooking peer) {ready : ReadyImport}
    (hready : readyImportAt (filesOf peer s) environment path = some ready) :
    let o := (runTool .importData environment entropy path).run peer s
    o.value = .ok () ∧ ∃ looking, (∀ x ∈ looking, x.request.isEffect = false) ∧
      o.exchanges =
        looking ++ ((importAll entropy ready.client ready.config).run peer s).exchanges := by
  have hlook := (finds_readyImport hpeer s environment path).looks_of_some hready
  refine ⟨?_, ((readyImport environment path).run peer s).exchanges, hlook.quiet, ?_⟩
  · simp only [runTool, runImport, run_bind, hlook.value_eq]
    rfl
  · simp only [runTool, runImport, run_bind, hlook.value_eq, hlook.state_eq]
    simp

theorem looks_prepareAll (hpeer : KeptByLooking peer)
    (hready : readyDeploymentAt (filesOf peer s) environment path = none) :
    ∃ problem, Looks peer s (runTool .prepareAll environment entropy path) (.error problem) := by
  obtain ⟨problem, hrun⟩ : ∃ problem, Looks peer s (runDeployment environment entropy path)
      (.error problem) :=
    (finds_readyDeployment hpeer s environment path).looks_of_none hready fun _ => rfl
  exact ⟨problem, hrun.bind (.done (Except.error problem))⟩

theorem imports_importPending (hpeer : KeptByLooking peer) (pending : Option ReadyImport) :
    ImportsPending peer s entropy pending
      ((importPending entropy pending).run peer s).exchanges := by
  cases pending with
  | none => exact .none
  | some ready =>
      refine .some ?_
      simp only [importPending, run_bind, pure_eq_done, run_done, List.append_nil]
      exact imports_importAll hpeer ready.client s entropy ready.config

theorem run_prepareAll (hpeer : KeptByLooking peer) {ready : ReadyDeployment}
    (hready : readyDeploymentAt (filesOf peer s) environment path = some ready) :
    let o := (runTool .prepareAll environment entropy path).run peer s
    let deployed := (ready.services.carryOut (Deployment.run ready.config)).run peer s
    o.value = .ok () ∧ ∃ looking imported, (∀ x ∈ looking, x.request.isEffect = false) ∧
      ImportsPending peer (afterShowing peer deployed.state (deployLines deployed.value)) entropy
        ready.pending imported ∧
      o.exchanges =
        looking ++ deployed.exchanges ++ shown (deployLines deployed.value) ++ imported := by
  have hlook := (finds_readyDeployment hpeer s environment path).looks_of_some hready
  refine ⟨?_, ((readyDeployment environment path).run peer s).exchanges, _, hlook.quiet,
    imports_importPending hpeer ready.pending, ?_⟩
  · simp only [runTool, runDeployment, run_bind, hlook.value_eq]
    rfl
  · simp only [runTool, runDeployment, deployAll, run_bind, hlook.value_eq, hlook.state_eq,
      run_printLines]
    simp

end Running

/-! ## Exit codes -/

/-- What holds of every run of a tool. -/
structure Decided [Media.Guess] {σ : Type} (peer : Peer Request Reply σ) (s : σ)
    (entropy : ImportEntropy)
    (environment : Settings.Variables) (arguments : List String) (t : Tool)
    (o : Outcome Request Reply σ Nat) : Prop where
  exit_iff : o.value = 2 ↔ Refused (filesOf peer s) environment arguments t
  idle_of_refused : Refused (filesOf peer s) environment arguments t →
    ∀ x ∈ o.exchanges, x.request.acts = false
  /-- Nothing that programs and servers answer changes the exit code. -/
  goesThrough : ¬Refused (filesOf peer s) environment arguments t →
    o.value = 0 ∧ GoesThrough peer s entropy environment arguments t o.exchanges

section Deciding

variable {σ : Type} {peer : Peer Request Reply σ} {s : σ} {entropy : ImportEntropy}
  {environment settled : Settings.Variables} {arguments : List String} {t : Tool} {path : Path}
  {o : Outcome Request Reply σ Nat}

theorem decided_of_refused [Media.Guess]
    (hrefused : Refused (filesOf peer s) environment arguments t)
    (ho : IsRefusal o) : Decided peer s entropy environment arguments t o :=
  ⟨⟨fun _ => hrefused, fun _ => ho.1⟩, fun _ => ho.2, fun h => absurd hrefused h⟩

theorem decided_of_goesThrough [Media.Guess]
    (hrefused : ¬Refused (filesOf peer s) environment arguments t)
    (hvalue : o.value = 0) (ho : GoesThrough peer s entropy environment arguments t o.exchanges) :
    Decided peer s entropy environment arguments t o := by
  refine ⟨⟨fun h => ?_, fun h => absurd h hrefused⟩, fun h => absurd h hrefused,
    fun _ => ⟨hvalue, ho⟩⟩
  rw [hvalue] at h
  cases h

theorem refused_importData_iff {disk : Disk} (hpath : configPath arguments = .ok path) :
    Refused disk environment arguments .importData ↔
      readyImportAt disk environment path = none := by
  rw [readyImportAt_eq_none_iff]
  constructor
  · intro h
    cases h with
    | usage hproblem => cases hpath.symm.trans hproblem
    | noImport hpath' himport =>
        cases hpath.symm.trans hpath'
        exact himport
  · exact .noImport hpath

theorem refused_prepareAll_iff {disk : Disk} (hpath : configPath arguments = .ok path) :
    Refused disk environment arguments .prepareAll ↔
      readyDeploymentAt disk environment path = none := by
  rw [readyDeploymentAt_eq_none_iff]
  constructor
  · intro h
    cases h with
    | usage hproblem => cases hpath.symm.trans hproblem
    | noDeployment hpath' hnone =>
        cases hpath.symm.trans hpath'
        exact .inl hnone
    | noPending hpath' hc hname himport =>
        cases hpath.symm.trans hpath'
        exact .inr ⟨_, hc, .inl ⟨_, hname, himport⟩⟩
    | noServices hpath' hc hproblem =>
        cases hpath.symm.trans hpath'
        exact .inr ⟨_, hc, .inr ⟨_, hproblem⟩⟩
  · rintro (hnone | ⟨c, hc, ⟨name, hname, himport⟩ | ⟨problem, hproblem⟩⟩)
    · exact .noDeployment hpath hnone
    · exact .noPending hpath hc hname himport
    · exact .noServices hpath hc hproblem

theorem decided_importData [Media.Guess] (hpeer : KeptByLooking peer) (herrors : ShowsErrors peer)
    (hstart : StartsUp peer s environment settled) (hpath : configPath arguments = .ok path) :
    Decided peer s entropy settled arguments .importData
      ((program .importData arguments environment entropy).run peer s) := by
  cases hready : readyImportAt (filesOf peer s) settled path with
  | none =>
      obtain ⟨problem, hlook⟩ := looks_importData hpeer hready
      exact decided_of_refused ((refused_importData_iff hpath).2 hready)
        (program_refused hpeer herrors hstart hpath hlook)
  | some ready =>
      obtain ⟨hconfig, hclient⟩ := build_of_readyImportAt hready
      obtain ⟨hvalue, looking, hlooking, hexchanges⟩ := run_importData hpeer hready
      obtain ⟨hzero, starting, hstarting, hprogram⟩ :=
        program_completed hpeer hstart hpath hvalue
      have hnot : ¬Refused (filesOf peer s) settled arguments .importData := by
        rw [refused_importData_iff hpath, hready]
        exact Option.some_ne_none ready
      refine decided_of_goesThrough hnot hzero ?_
      rw [hprogram, hexchanges, ← List.append_assoc]
      exact .importData hpath hconfig hclient (List.forall_mem_append.2 ⟨hstarting, hlooking⟩)
        (imports_importAll hpeer ready.client s entropy ready.config)

theorem decided_prepareAll [Media.Guess] (hpeer : KeptByLooking peer) (herrors : ShowsErrors peer)
    (hstart : StartsUp peer s environment settled) (hpath : configPath arguments = .ok path) :
    Decided peer s entropy settled arguments .prepareAll
      ((program .prepareAll arguments environment entropy).run peer s) := by
  cases hready : readyDeploymentAt (filesOf peer s) settled path with
  | none =>
      obtain ⟨problem, hlook⟩ := looks_prepareAll hpeer hready
      exact decided_of_refused ((refused_prepareAll_iff hpath).2 hready)
        (program_refused hpeer herrors hstart hpath hlook)
  | some ready =>
      obtain ⟨hconfig, hservices, hpending⟩ := build_of_readyDeploymentAt hready
      obtain ⟨hvalue, looking, imported, hlooking, himported, hexchanges⟩ :=
        run_prepareAll hpeer hready
      obtain ⟨hzero, starting, hstarting, hprogram⟩ :=
        program_completed hpeer hstart hpath hvalue
      have hnot : ¬Refused (filesOf peer s) settled arguments .prepareAll := by
        rw [refused_prepareAll_iff hpath, hready]
        exact Option.some_ne_none ready
      refine decided_of_goesThrough hnot hzero ?_
      rw [hprogram, hexchanges, ← List.append_assoc, ← List.append_assoc, ← List.append_assoc]
      exact .prepareAll hpath hconfig hservices hpending
        (List.forall_mem_append.2 ⟨hstarting, hlooking⟩) rfl himported

end Deciding

/-- Whatever the files, the programs and the servers are like, a tool that starts up is refused,
exits with two and has done nothing, or it does all of its work and exits with zero. -/
theorem program_decided [Media.Guess] {σ : Type} (peer : Peer Request Reply σ)
    (hpeer : KeptByLooking peer) (herrors : ShowsErrors peer) (s : σ) (t : Tool)
    (arguments : List String) (environment settled : Settings.Variables)
    (hstart : StartsUp peer s environment settled) (entropy : ImportEntropy) :
    Decided peer s entropy settled arguments t
      ((program t arguments environment entropy).run peer s) := by
  cases hpath : configPath arguments with
  | error problem =>
      exact decided_of_refused (.usage hpath) (program_usage hpeer herrors hstart hpath)
  | ok path =>
      cases t with
      | importData => exact decided_importData hpeer herrors hstart hpath
      | prepareAll => exact decided_prepareAll hpeer herrors hstart hpath

/-! ## Samples -/

/-- A world with a few files, in which programs cannot be launched and servers do not answer. -/
def barrenPeer (settings : Option Bytes) (files : List (Path × String)) :
    Peer Request Reply Unit where
  reply s
    | .startWorkers _ => (.ok (), s)
    | .readFile path => (((files.lookup path).map Utf8.encode).elim (.error .missing) .ok, s)
    | .readSettings => (settings, s)
    | .fileNames _ => (none, s)
    | .makeFolders _ | .writeFile .. => (.error .notPermitted, s)
    | .launch .. => (.error .missing, s)
    | .exchange .. => (none, s)
    | .print .output _ => ((), s)
    | .print .errors _ => (true, s)

theorem keptByLooking_barrenPeer (settings : Option Bytes) (files : List (Path × String)) :
    KeptByLooking (barrenPeer settings files) := by
  intro s q _
  cases q <;> rfl

theorem showsErrors_barrenPeer (settings : Option Bytes) (files : List (Path × String)) :
    ShowsErrors (barrenPeer settings files) := fun _ _ => rfl

def sampleEntropy : ImportEntropy := ⟨Vector.replicate 16 0, Vector.replicate 16 0⟩

def sampleImport : String :=
  "\x7b\"endPoint\":\"http://h\",\"uis\":\"u\",\"mcs\":\"m\",\"login\":\"l\",\"password\":\"p\"," ++
    "\"provider\":\x7b\"name\":\"q\"\x7d,\"folders\":[\"f\"]\x7d"

def sampleDeployment : String :=
  "\x7b\"kafkaHome\":\"/k\",\"zookeeper\":\"z\",\"topics\":[\"t\"]," ++
    "\"importConfigFile\":\"i.json\"\x7d"

def samplePeer : Peer Request Reply Unit :=
  barrenPeer none [(⟨"d.json"⟩, sampleDeployment), (⟨"i.json"⟩, sampleImport)]

/-- The deployment and the import behind it go through although the topic is not created.  An import
that is not configured anywhere is refused. -/
theorem program_decided_sample :
    KeptByLooking samplePeer ∧ ShowsErrors samplePeer ∧ StartsUp samplePeer () [] [] ∧
      (let o := (program .prepareAll ["-c", "d.json"] [] sampleEntropy).run samplePeer ()
       o.value = 0 ∧
          GoesThrough samplePeer () sampleEntropy [] ["-c", "d.json"] .prepareAll o.exchanges) ∧
      ((program .importData ["-c", "x.json"] [] sampleEntropy).run samplePeer ()).value = 2 := by
  have hpeer : KeptByLooking samplePeer := keptByLooking_barrenPeer _ _
  have herrors : ShowsErrors samplePeer := showsErrors_barrenPeer _ _
  have hstart : StartsUp samplePeer () [] [] := ⟨⟨none, .any rfl, rfl⟩, .alone rfl⟩
  have hdeployed := program_decided samplePeer hpeer herrors () .prepareAll ["-c", "d.json"]
    [] [] hstart sampleEntropy
  have hrefused := program_decided samplePeer hpeer herrors () .importData ["-c", "x.json"]
    [] [] hstart sampleEntropy
  have hpath : configPath ["-c", "d.json"] = .ok ⟨"d.json"⟩ := rfl
  have hready : (readyDeploymentAt (filesOf samplePeer ()) [] ⟨"d.json"⟩).isSome = true := by
    decide +kernel
  have hnot : ¬Refused (filesOf samplePeer ()) [] ["-c", "d.json"] .prepareAll := by
    rw [refused_prepareAll_iff hpath]
    exact Option.isSome_iff_ne_none.1 hready
  exact ⟨hpeer, herrors, hstart, hdeployed.goesThrough hnot,
    hrefused.exit_iff.2 (.noImport rfl (.inl rfl))⟩

def unsettledPeer : Peer Request Reply Unit := barrenPeer (some (Utf8.encode "A=x\x00y")) []

def blankPeer : Peer Request Reply Unit :=
  barrenPeer none [(⟨"d.json"⟩, "\x7b\"importConfigFile\":\" \"\x7d"), (⟨" "⟩, sampleImport)]

/-- A tool that is asked for help exits with neither zero nor two where it cannot start up; and a
deployment goes through without the import that it names where the name is blank. -/
theorem program_undecided :
    ((program .importData ["--help"] [] sampleEntropy).run unsettledPeer ()).value = 101 ∧
      ((program .importData ["--help"] [(workersVariable, "0")] sampleEntropy).run
        samplePeer ()).value = 101 ∧
      (importAt (filesOf blankPeer ()) [] ⟨" "⟩).isSome = true ∧
      (let o := (program .prepareAll ["-c", "d.json"] [] sampleEntropy).run blankPeer ()
       o.value = 0 ∧ o.requests = [.startWorkers none, .readSettings, .readFile ⟨"d.json"⟩]) := by
  decide +kernel

end Ingest.CommandLine
