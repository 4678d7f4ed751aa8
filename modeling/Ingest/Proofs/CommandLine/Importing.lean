import Ingest.Proofs.CommandLine.Looking
import Ingest.Proofs.Dialogue.Conduct
import Ingest.Proofs.Import.Turns
/-!
# How a tool imports

An import is announced, carried out and reported.  It looks into each folder at its turn; apart
from that it exchanges with the world what carrying out its plan over HTTP exchanges, for the
records that the folders were found to make up.
-/

namespace Ingest

namespace World

def Request.listsFolder : Request → Bool
  | .fileNames _ => true
  | _ => false

end World

namespace CommandLine

open World Dialogue

/-! ## Shown lines -/

section Showing

variable {σ : Type} (peer : Peer Request Reply σ)

def shown (lines : List String) : List Event :=
  lines.map fun line => ⟨.print .output (line ++ "\n"), ()⟩

def afterShowing (s : σ) (lines : List String) : σ :=
  lines.foldl (fun s line => (peer.reply s (.print .output (line ++ "\n"))).2) s

theorem run_printLines (s : σ) (lines : List String) :
    (printLines lines).run peer s = ⟨(), afterShowing peer s lines, shown lines⟩ := by
  induction lines generalizing s with
  | nil => rfl
  | cons line lines ih =>
      rw [printLines, run_bind]
      simp only [ih]
      rfl

end Showing

/-! ## Folders that are looked into -/

/-- A folder with the names of the files that were found in it, if it could be listed. -/
structure Look where
  folder : Path
  names : Option (List String)

namespace Look

def event (l : Look) : Event := ⟨.fileNames l.folder, l.names⟩

def record? (l : Look) : Option FolderRecord := l.names.bind (FolderRecord.ofListing l.folder)

end Look

section Imports

variable {σ : Type} (peer : Peer Request Reply σ) (s : σ) (entropy : ImportEntropy)
  (client : Repository.Client) (c : ImportConfig)

/-- What an import exchanges with the world from the state `s`: the line that announces it, its
work and the lines of its report.  The work is a look into each configured folder, in order, and
what carrying out the plan over HTTP exchanges. -/
inductive Imports [Media.Guess] : List Event → Prop
  | mk {looks : List Look} {work : List Event} {carried : Outcome Request Reply σ ImportReport}
      (hfolders : looks.map (·.folder) = c.folders)
      (hlooks : work.filter (·.request.listsFolder) = looks.map (·.event))
      (hcarried : carried = (client.carryOut (Import.runPlan entropy c
        (Import.planWith (looks.filterMap (·.record?)) c))).run peer
          (afterShowing peer s [startedLine]))
      (hwork : work.filter (!·.request.listsFolder) = carried.exchanges) :
      Imports (shown [startedLine] ++ work ++ shown (importLines carried.value))

end Imports

/-! ## Requests that look into no folder -/

section Elsewhere

variable {α β : Type}

abbrev Elsewhere (d : WorldDialogue α) : Prop :=
  KeepsTo (fun q => q.listsFolder = false) (fun _ => True) d

theorem Elsewhere.bind {d : WorldDialogue α} {f : α → WorldDialogue β} (h : Elsewhere d)
    (hf : ∀ a, Elsewhere (f a)) : Elsewhere (d >>= f) :=
  KeepsTo.bind h fun a _ => hf a

theorem elsewhere_sendFrom (http : Http.Client) (first : Url) (redirects : Nat) (previous : Url)
    (r : Http.Request) : Elsewhere (http.sendFrom first redirects previous r) := by
  induction redirects generalizing previous r with
  | zero =>
      rw [Http.Client.sendFrom]
      refine .ask rfl fun reply => ?_
      split
      · exact .done trivial
      · split
        · exact .done trivial
        · split <;> exact .done trivial
  | succ redirects ih =>
      rw [Http.Client.sendFrom]
      refine .ask rfl fun reply => ?_
      split
      · exact .done trivial
      · split
        · exact .done trivial
        · split
          · dsimp only
            split
            · exact ih ..
            · exact .done trivial
          · exact .done trivial

theorem elsewhere_send (client : Repository.Client) (operation : String) (r : Http.Request) :
    Elsewhere (client.send operation r) := by
  have hsend : Elsewhere (client.http.send (r.withAuth client.login client.password)) := by
    rw [Http.Client.send]
    split
    · exact elsewhere_sendFrom ..
    · exact .done trivial
  refine hsend.bind fun result => ?_
  cases result <;> exact .done trivial

theorem elsewhere_call (client : Repository.Client) (operation : String) (r : Http.Request)
    (read : Http.Answer → Except RemoteError α) : Elsewhere (client.call operation r read) :=
  (elsewhere_send client operation r).bind fun _ => .done trivial

theorem elsewhere_answer (client : Repository.Client) (q : Repository.Request) :
    Elsewhere (client.answer q) := by
  cases q with
  | addFile versionUrl file =>
      refine .ask rfl fun reply => ?_
      split
      · exact .done trivial
      · split
        · exact .done trivial
        · exact elsewhere_call ..
  | persist versionUrl =>
      simp only [Repository.Client.answer]
      split
      · exact .done trivial
      · exact elsewhere_call ..
  | _ => exact elsewhere_call ..

theorem elsewhere_carryOut (client : Repository.Client) (d : RepositoryDialogue α) :
    Elsewhere (client.carryOut d) := by
  induction d with
  | done a => exact .done trivial
  | ask q next ih => exact (elsewhere_answer client q).bind ih

end Elsewhere

/-! ## Working like another run -/

section Working

variable {σ α β : Type} {peer : Peer Request Reply σ}

structure WorksLike (looks : List Look) (o o' : Outcome Request Reply σ α) : Prop where
  value_eq : o.value = o'.value
  state_eq : o.state = o'.state
  looks_eq : o.exchanges.filter (·.request.listsFolder) = looks.map (·.event)
  work_eq : o.exchanges.filter (!·.request.listsFolder) = o'.exchanges

theorem Elsewhere.worksLike {d : WorldDialogue α} (h : Elsewhere d) (s : σ) :
    WorksLike [] (d.run peer s) (d.run peer s) := by
  have hnone : ∀ x ∈ (d.run peer s).exchanges, x.request.listsFolder = false := fun x hx =>
    (h.run peer s).1 x.request (List.mem_map_of_mem hx)
  refine ⟨rfl, rfl, ?_, ?_⟩
  · exact List.filter_eq_nil_iff.2 fun x hx => by simp [hnone x hx]
  · exact List.filter_eq_self.2 fun x hx => by simp [hnone x hx]

theorem WorksLike.bind {looks looks' : List Look} {d d' : WorldDialogue α}
    {f f' : α → WorldDialogue β} {s : σ} (h : WorksLike looks (d.run peer s) (d'.run peer s))
    (hf : WorksLike looks' ((f (d'.run peer s).value).run peer (d'.run peer s).state)
      ((f' (d'.run peer s).value).run peer (d'.run peer s).state)) :
    WorksLike (looks ++ looks') ((d >>= f).run peer s) ((d' >>= f').run peer s) := by
  simp only [run_bind, h.value_eq, h.state_eq]
  exact ⟨hf.value_eq, hf.state_eq, by simp [h.looks_eq, hf.looks_eq],
    by simp [h.work_eq, hf.work_eq]⟩

/-- A dialogue that looks into the given folders, and does what another one does that is told what
was found there. -/
def WorksAs (peer : Peer Request Reply σ) (folders : List Path) (d : WorldDialogue α)
    (d' : List Look → WorldDialogue α) : Prop :=
  ∀ s, ∃ looks : List Look, looks.map (·.folder) = folders ∧
    WorksLike looks (d.run peer s) ((d' looks).run peer s)

namespace WorksAs

variable {folders : List Path}

theorem look (hpeer : KeptByLooking peer) {folder : Path}
    {next : Option (List String) → WorldDialogue α} {d' : List Look → WorldDialogue α}
    (h : ∀ names, WorksAs peer folders (next names) fun looks => d' (⟨folder, names⟩ :: looks)) :
    WorksAs peer (folder :: folders) (.ask (.fileNames folder) next) d' := by
  intro s
  obtain ⟨looks, hfolders, hworks⟩ := h (peer.reply s (.fileNames folder)).1 s
  have hstate : (peer.reply s (.fileNames folder)).2 = s := hpeer s _ rfl
  refine ⟨⟨folder, (peer.reply s (.fileNames folder)).1⟩ :: looks,
    congrArg (folder :: ·) hfolders, ?_⟩
  simp only [run, hstate]
  exact ⟨hworks.value_eq, hworks.state_eq, congrArg (List.cons _) hworks.looks_eq, hworks.work_eq⟩

theorem after {d : WorldDialogue α} {f : α → WorldDialogue β} {f' : α → List Look → WorldDialogue β}
    (hd : Elsewhere d) (h : ∀ a, WorksAs peer folders (f a) (f' a)) :
    WorksAs peer folders (d >>= f) fun looks => d >>= fun a => f' a looks := by
  intro s
  obtain ⟨looks, hfolders, hworks⟩ := h (d.run peer s).value (d.run peer s).state
  exact ⟨looks, hfolders, (hd.worksLike s).bind hworks⟩

theorem before {d : WorldDialogue α} {d' : List Look → WorldDialogue α} {f : α → WorldDialogue β}
    (h : WorksAs peer folders d d') (hf : ∀ a, Elsewhere (f a)) :
    WorksAs peer folders (d >>= f) fun looks => d' looks >>= f := by
  intro s
  obtain ⟨looks, hfolders, hworks⟩ := h s
  refine ⟨looks, hfolders, ?_⟩
  simpa only [List.append_nil] using hworks.bind ((hf _).worksLike _)

end WorksAs

/-! ## Imports -/

variable (hpeer : KeptByLooking peer) (client : Repository.Client)

theorem perform_answerInquiry (d : RepositoryDialogue α) :
    (Import.ofRepository d).perform (answerInquiry client) = client.carryOut d :=
  Import.perform_ofRepository _ d

theorem carryOut_bind (d : RepositoryDialogue α) (f : α → RepositoryDialogue β) :
    client.carryOut (d >>= f) = client.carryOut d >>= fun a => client.carryOut (f a) :=
  perform_bind _ d f

theorem carryOut_storeRecords_append [Media.Guess] (providerId : String) (dataSetId : Option String)
    (rs rs' : List Import.PlannedRecord) :
    client.carryOut (Import.storeRecords providerId dataSetId (rs ++ rs')) = do
      let outcomes ← client.carryOut (Import.storeRecords providerId dataSetId rs)
      let outcomes' ← client.carryOut (Import.storeRecords providerId dataSetId rs')
      return outcomes ++ outcomes' := by
  rw [Import.storeRecords_append]
  simp only [carryOut_bind]
  rfl

include hpeer

theorem worksAs_storeFolders [Media.Guess] (providerId : String) (dataSetId : Option String)
    (folders : List Path) :
    WorksAs peer folders
      ((Import.storeFolders providerId dataSetId folders).perform (answerInquiry client))
      fun looks => client.carryOut (Import.storeRecords providerId dataSetId
        ((looks.filterMap (·.record?)).map Import.folderRecord)) := by
  induction folders with
  | nil => exact fun s => ⟨[], rfl, rfl, rfl, rfl, rfl⟩
  | cons folder folders ih =>
      have hfolder : (Import.storeFolders providerId dataSetId (folder :: folders)).perform
          (answerInquiry client) = .ask (.fileNames folder) fun names => do
            let outcomes ← client.carryOut (Import.storeRecords providerId dataSetId
              ((Look.mk folder names).record?.toList.map Import.folderRecord))
            let rest ← (Import.storeFolders providerId dataSetId folders).perform
              (answerInquiry client)
            return outcomes ++ rest := by
        simp only [Import.storeFolders, perform_bind, perform_request, perform_answerInquiry]
        rfl
      rw [hfolder]
      refine .look hpeer fun names => ?_
      simp only [Import.map_folderRecord_cons, carryOut_storeRecords_append]
      exact .after (elsewhere_carryOut client _) fun outcomes =>
        ih.before fun rest => .done trivial

/-- An import that looks into its folders at their turn does what carrying out its plan over HTTP
does, once the folders' records are known. -/
theorem worksAs_inTurn [Media.Guess] (entropy : ImportEntropy) (c : ImportConfig) :
    WorksAs peer c.folders ((Import.inTurn entropy c).perform (answerInquiry client)) fun looks =>
      client.carryOut (Import.runPlan entropy c
        (Import.planWith (looks.filterMap (·.record?)) c)) := by
  simp only [Import.inTurn, Import.runPlan, Import.planWith, perform_bind, perform_answerInquiry,
    carryOut_bind, carryOut_storeRecords_append, bind_assoc]
  refine .after (elsewhere_carryOut client _) fun providerId => ?_
  refine .after (elsewhere_carryOut client _) fun dataSetId => ?_
  refine .after (elsewhere_carryOut client _) fun single => ?_
  refine (worksAs_storeFolders hpeer client providerId dataSetId c.folders).before fun folders => ?_
  exact (elsewhere_carryOut client _).bind fun complex => .done trivial

omit hpeer in
theorem run_importAll [Media.Guess] (s : σ) (entropy : ImportEntropy) (c : ImportConfig) :
    (importAll entropy client c).run peer s =
      let worked := ((Import.inTurn entropy c).perform (answerInquiry client)).run peer
        (afterShowing peer s [startedLine])
      ⟨worked.value, afterShowing peer worked.state (importLines worked.value),
        shown [startedLine] ++ worked.exchanges ++ shown (importLines worked.value)⟩ := by
  have hstarted : (printLine startedLine).run peer s =
      ⟨(), afterShowing peer s [startedLine], shown [startedLine]⟩ := rfl
  rw [importAll, run_bind, hstarted]
  simp only [run_bind, run_printLines, pure_eq_done, run_done, List.append_nil, List.append_assoc]

theorem imports_importAll [Media.Guess] (s : σ) (entropy : ImportEntropy) (c : ImportConfig) :
    Imports peer s entropy client c ((importAll entropy client c).run peer s).exchanges := by
  obtain ⟨looks, hfolders, hworks⟩ :=
    worksAs_inTurn hpeer client entropy c (afterShowing peer s [startedLine])
  rw [run_importAll]
  simp only [hworks.value_eq]
  exact .mk hfolders hworks.looks_eq rfl hworks.work_eq

end Working

end CommandLine

end Ingest
