import Ingest.CommandLine.Run
import Ingest.Proofs.Result
/-!
# Looking before acting

A tool gets ready by looking: it reads files, and nothing is written, launched, sent or shown.
Looking changes nothing, so what a tool finds depends only on how the files are when it starts.
-/

namespace Ingest

namespace World

abbrev Event := Exchange Request Reply

/-- A program is launched, a message is sent, or a file or folder is written. -/
def Request.acts : Request → Bool
  | .makeFolders _ | .writeFile .. | .launch .. | .exchange .. => true
  | .startWorkers _ | .readFile _ | .readSettings | .fileNames _ | .print .. => false

/-- The world stays as it is when it is only looked at. -/
def KeptByLooking {σ : Type} (peer : Peer Request Reply σ) : Prop :=
  ∀ s q, q.isEffect = false → (peer.reply s q).2 = s

/-- The files, by what reading them gives. -/
abbrev Disk := Path → Except Files.Failure Bytes

theorem Request.acts_eq_false {q : Request} (h : q.isEffect = false) : q.acts = false := by
  cases q <;> first | rfl | cases h

end World

namespace CommandLine

open World Dialogue

/-! ## What the files hold -/

section Disk

variable (disk : Disk) (environment : Settings.Variables)

def textAt (path : Path) : Option String := (disk path).toOption.bind Utf8.decode?

def importAt (path : Path) : Option ImportConfig :=
  (textAt disk path).bind fun text => (ImportConfig.ofText text).toOption.map (withUser environment)

def deploymentAt (path : Path) : Option DeployConfig :=
  (textAt disk path).bind fun text => (DeployConfig.ofText text).toOption

def readyImportAt (path : Path) : Option ReadyImport :=
  (importAt disk environment path).bind fun c =>
    (Repository.Client.build c).toOption.map fun client => ⟨client, c⟩

def beside (path : Path) (name : String) : Path := (path.parent?.getD ⟨""⟩).child name

def readyPendingAt (path : Path) (c : DeployConfig) : Option (Option ReadyImport) :=
  match c.importConfigFile with
  | none => some none
  | some name => (readyImportAt disk environment (beside path name)).map some

def readyDeploymentAt (path : Path) : Option ReadyDeployment :=
  (deploymentAt disk path).bind fun c =>
    (readyPendingAt disk environment path c).bind fun pending =>
      (Provision.Services.build c.proxy).toOption.map fun services => ⟨services, c, pending⟩

end Disk

/-! ## Dialogues that look -/

section Looking

variable {σ α β : Type} {peer : Peer Request Reply σ} {s : σ}

/-- A run that looks, leaves the world as it was and ends with the value `a`. -/
structure Looks (peer : Peer Request Reply σ) (s : σ) (d : WorldDialogue α) (a : α) : Prop where
  value_eq : (d.run peer s).value = a
  state_eq : (d.run peer s).state = s
  quiet : ∀ x ∈ (d.run peer s).exchanges, x.request.isEffect = false

theorem Looks.done (a : α) : Looks peer s (.done a) a :=
  ⟨rfl, rfl, by simp⟩

/-- What follows a look goes on from the same world. -/
theorem Looks.run_bind {d : WorldDialogue α} {a : α} (h : Looks peer s d a)
    (f : α → WorldDialogue β) :
    (d >>= f).run peer s =
      ⟨((f a).run peer s).value, ((f a).run peer s).state,
        (d.run peer s).exchanges ++ ((f a).run peer s).exchanges⟩ := by
  simp only [Dialogue.run_bind, h.value_eq, h.state_eq]

theorem Looks.bind {d : WorldDialogue α} {f : α → WorldDialogue β} {a : α} {b : β}
    (h : Looks peer s d a) (hf : Looks peer s (f a) b) : Looks peer s (d >>= f) b := by
  refine ⟨?_, ?_, ?_⟩
  · rw [h.run_bind, hf.value_eq]
  · rw [h.run_bind, hf.state_eq]
  · intro x hx
    rw [h.run_bind, List.mem_append] at hx
    exact hx.elim (h.quiet x) (hf.quiet x)

theorem Looks.ask (hpeer : KeptByLooking peer) {q : Request} {next : Reply q → WorldDialogue α}
    {a : α} (hq : q.isEffect = false) (h : Looks peer s (next (peer.reply s q).1) a) :
    Looks peer s (.ask q next) a := by
  have hstate : (peer.reply s q).2 = s := hpeer s q hq
  refine ⟨?_, ?_, ?_⟩
  · simp only [run, hstate, h.value_eq]
  · simp only [run, hstate, h.state_eq]
  · simp only [run, hstate, List.forall_mem_cons]
    exact ⟨hq, h.quiet⟩

def Finds (peer : Peer Request Reply σ) (s : σ) (d : WorldDialogue (Except StartProblem α))
    (a : Option α) : Prop :=
  ∃ r, Looks peer s d r ∧ r.toOption = a

theorem Finds.of_result (r : Except StartProblem α) : Finds peer s (.done r) r.toOption :=
  ⟨r, .done r, rfl⟩

theorem Finds.looks_of_some {d : WorldDialogue (Except StartProblem α)} {found : Option α} {a : α}
    (h : Finds peer s d found) (ha : found = some a) : Looks peer s d (.ok a) := by
  obtain ⟨r, hlook, hr⟩ := h
  obtain rfl := toOption_eq_some_iff.1 (hr.trans ha)
  exact hlook

/-- Where nothing is found there is a problem, and what passes the problem on ends with it. -/
theorem Finds.looks_of_none {d : WorldDialogue (Except StartProblem α)} {found : Option α}
    {f : Except StartProblem α → WorldDialogue (Except StartProblem β)}
    (h : Finds peer s d found) (hnone : found = none)
    (hf : ∀ e, f (.error e) = .done (.error e)) :
    ∃ problem, Looks peer s (d >>= f) (.error problem) := by
  obtain ⟨r, hlook, hr⟩ := h
  obtain ⟨problem, rfl⟩ := toOption_eq_none_iff.1 (hr.trans hnone)
  exact ⟨problem, hlook.bind (hf problem ▸ .done _)⟩

theorem Finds.bind {d : WorldDialogue (Except StartProblem α)} {a : Option α}
    {f : Except StartProblem α → WorldDialogue (Except StartProblem β)} {b : α → Option β}
    (h : Finds peer s d a) (hok : ∀ x, Finds peer s (f (.ok x)) (b x))
    (herror : ∀ e, ∃ e', f (.error e) = .done (.error e')) : Finds peer s (d >>= f) (a.bind b) := by
  obtain ⟨r, hlook, rfl⟩ := h
  cases r with
  | error e =>
      obtain ⟨e', he⟩ := herror e
      exact ⟨.error e', hlook.bind (he ▸ .done _), rfl⟩
  | ok x =>
      obtain ⟨r, hr, hb⟩ := hok x
      exact ⟨r, hlook.bind hr, hb⟩

end Looking

/-! ## Getting ready -/

section Ready

variable {σ : Type} {peer : Peer Request Reply σ} (hpeer : KeptByLooking peer) (s : σ)

def filesOf (peer : Peer Request Reply σ) (s : σ) : Disk := fun path =>
  (peer.reply s (.readFile path)).1

include hpeer

theorem finds_readText (path : Path) :
    Finds peer s (readText path) (textAt (filesOf peer s) path) := by
  cases hread : (peer.reply s (.readFile path)).1 with
  | error cause =>
      refine ⟨.error (.unreadable path cause), .ask hpeer rfl ?_, ?_⟩
      · rw [hread]
        exact .done _
      · rw [textAt, filesOf, hread]
        rfl
  | ok bytes =>
      have htextAt : textAt (filesOf peer s) path = Utf8.decode? bytes := by
        rw [textAt, filesOf, hread]
        rfl
      rw [htextAt]
      cases htext : Utf8.decode? bytes with
      | none =>
          refine ⟨.error (.unreadable path .notUtf8), .ask hpeer rfl ?_, rfl⟩
          simp only [hread, htext]
          exact .done _
      | some text =>
          refine ⟨.ok text, .ask hpeer rfl ?_, rfl⟩
          simp only [hread, htext]
          exact .done _

theorem finds_loadImport (environment : Settings.Variables) (path : Path) :
    Finds peer s (loadImport environment path) (importAt (filesOf peer s) environment path) := by
  refine (finds_readText hpeer s path).bind (fun text => ?_) fun e => ⟨e, rfl⟩
  refine ⟨_, .done _, ?_⟩
  cases hc : ImportConfig.ofText text <;> simp only [Except.bind, hc] <;> rfl

theorem finds_loadDeploy (path : Path) :
    Finds peer s (loadDeploy path) (deploymentAt (filesOf peer s) path) := by
  refine (finds_readText hpeer s path).bind (fun text => ?_) fun e => ⟨e, rfl⟩
  refine ⟨_, .done _, ?_⟩
  cases hc : DeployConfig.ofText text <;> simp only [Except.bind, hc] <;> rfl

theorem finds_readyImport (environment : Settings.Variables) (path : Path) :
    Finds peer s (readyImport environment path)
      (readyImportAt (filesOf peer s) environment path) := by
  refine (finds_loadImport hpeer s environment path).bind (fun c => ?_) fun e => ⟨e, rfl⟩
  refine ⟨_, .done _, ?_⟩
  cases hclient : Repository.Client.build c <;> simp only [Except.bind, hclient] <;> rfl

theorem finds_readyPending (environment : Settings.Variables) (path : Path) (c : DeployConfig) :
    Finds peer s (readyPending environment path c)
      (readyPendingAt (filesOf peer s) environment path c) := by
  simp only [readyPending, readyPendingAt, DeployConfig.importConfigPath]
  cases c.importConfigFile with
  | none => exact .of_result _
  | some name =>
      simp only [Option.map_eq_bind]
      exact (finds_readyImport hpeer s environment (beside path name)).bind
        (fun ready => .of_result _) fun e => ⟨_, rfl⟩

theorem finds_readyDeployment (environment : Settings.Variables) (path : Path) :
    Finds peer s (readyDeployment environment path)
      (readyDeploymentAt (filesOf peer s) environment path) := by
  refine (finds_loadDeploy hpeer s path).bind (fun c => ?_) fun e => ⟨e, rfl⟩
  refine (finds_readyPending hpeer s environment path c).bind (fun pending => ?_) fun e => ⟨e, rfl⟩
  cases hservices : Provision.Services.build c.proxy with
  | error problem => exact ⟨_, .done _, rfl⟩
  | ok services => exact ⟨_, .done _, rfl⟩

end Ready

end CommandLine

end Ingest
