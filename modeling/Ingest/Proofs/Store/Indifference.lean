import Ingest.Proofs.Dialogue.Lockstep
import Ingest.Proofs.Store.Course
/-!
# Uploads and assignments decide nothing

Whether a file is received and whether an assignment is accepted is reported, but nothing that is
sent depends on it.  Two runs whose identifiers, creations and closings are answered alike go in
lockstep: they send the same requests, and their reports have the same outline.
-/

namespace Ingest

/-- A representation without what uploads and its assignment have made of it. -/
def RepresentationReport.outline (r : RepresentationReport) : RepresentationReport :=
  { r with files := [], assigned := false }

/-- A report without what uploads and assignments have made of it. -/
def StoreReport.outline (r : StoreReport) : StoreReport :=
  { r with representations := r.representations.map (·.outline), skipped := [] }

namespace Store

open Repository Dialogue

/-! ## Decisive answers -/

/-- The answer to the request may decide what else is sent. -/
def isDecisive : Request → Bool
  | .createCloudId _ | .getCloudId _ | .createRepresentation .. | .persist _ => true
  | .createProvider .. | .createDataSet .. | .addFile .. | .assign .. => false

namespace Call

@[simp] def issued? : Call → Option (Except RemoteError CloudId)
  | ⟨.createCloudId _, reply⟩ => some reply
  | _ => none

@[simp] def lookedUp? : Call → Option (Except RemoteError CloudId)
  | ⟨.getCloudId _, reply⟩ => some reply
  | _ => none

@[simp] def creation? : Call → Option (Except RemoteError String)
  | ⟨.createRepresentation .., reply⟩ => some reply
  | _ => none

@[simp] def persistence? : Call → Option (Except RemoteError PersistOutcome)
  | ⟨.persist _, reply⟩ => some reply
  | _ => none

end Call

/-- The lists have the same element at each place that both of them have. -/
def Matching {β : Type} (xs ys : List β) : Prop :=
  ∀ (k : Nat) (x y : β), xs[k]? = some x → ys[k]? = some y → x = y

theorem matching_refl {β : Type} (xs : List β) : Matching xs xs := by
  intro k x y hx hy
  exact Option.some.inj (hx.symm.trans hy)

theorem matching_cons {β : Type} {x y : β} {xs ys : List β} (h : Matching (x :: xs) (y :: ys)) :
    x = y ∧ Matching xs ys :=
  ⟨h 0 x y rfl rfl, fun k => h (k + 1)⟩

/-- The logs bring the same answer to the k-th call of each decisive kind, for every k that both
of them reach.  About uploads and assignments nothing is said. -/
structure SameDecisions (log log' : List Call) : Prop where
  issued : Matching (view Call.issued? log) (view Call.issued? log')
  lookedUp : Matching (view Call.lookedUp? log) (view Call.lookedUp? log')
  creations : Matching (view Call.creation? log) (view Call.creation? log')
  persistences : Matching (view Call.persistence? log) (view Call.persistence? log')

def SameIfDecisive (q : Request) (r r' : Reply q) : Prop := isDecisive q → r = r'

theorem SameDecisions.cons {q : Request} {r r' : Reply q} {log log' : List Call}
    (h : SameDecisions (⟨q, r⟩ :: log) (⟨q, r'⟩ :: log')) :
    SameIfDecisive q r r' ∧ SameDecisions log log' := by
  obtain ⟨hissued, hlookedUp, hcreations, hpersistences⟩ := h
  cases q with
  | createProvider id data =>
      exact ⟨nofun, hissued, hlookedUp, hcreations, hpersistences⟩
  | createDataSet providerId dataSet =>
      exact ⟨nofun, hissued, hlookedUp, hcreations, hpersistences⟩
  | createCloudId key =>
      obtain ⟨hr, hissued⟩ := matching_cons hissued
      exact ⟨fun _ => hr, hissued, hlookedUp, hcreations, hpersistences⟩
  | getCloudId key =>
      obtain ⟨hr, hlookedUp⟩ := matching_cons hlookedUp
      exact ⟨fun _ => hr, hissued, hlookedUp, hcreations, hpersistences⟩
  | createRepresentation cloudId name providerId =>
      obtain ⟨hr, hcreations⟩ := matching_cons hcreations
      exact ⟨fun _ => hr, hissued, hlookedUp, hcreations, hpersistences⟩
  | addFile versionUrl file =>
      exact ⟨nofun, hissued, hlookedUp, hcreations, hpersistences⟩
  | persist versionUrl =>
      obtain ⟨hr, hpersistences⟩ := matching_cons hpersistences
      exact ⟨fun _ => hr, hissued, hlookedUp, hcreations, hpersistences⟩
  | assign providerId dataSetId assignment =>
      exact ⟨nofun, hissued, hlookedUp, hcreations, hpersistences⟩

/-! ## Progress of the same outline -/

namespace Progress

structure Alike (p p' : Progress) : Prop where
  outlines : p.representations.map (·.outline) = p'.representations.map (·.outline)
  refused : p.refused = p'.refused

namespace Alike

variable {p p' : Progress} (h : p.Alike p')
include h

theorem skip (file : Path) : (p.skip file).Alike (p'.skip file) := ⟨h.outlines, h.refused⟩

theorem refuse (name : String) : (p.refuse name).Alike (p'.refuse name) :=
  ⟨h.outlines, congrArg (· ++ [name]) h.refused⟩

theorem create (name url : String) : (p.create name url).Alike (p'.create name url) where
  outlines := by simp [Progress.create, h.outlines]
  refused := h.refused

theorem versions_eq : p.versions = p'.versions := by
  have hversions : ∀ q : Progress,
      q.versions = (q.representations.map (·.outline)).map Version.ofReport := by
    intro q
    rw [List.map_map]
    rfl
  rw [hversions p, hversions p', h.outlines]

theorem versionUrl?_eq (name : String) : p.versionUrl? name = p'.versionUrl? name := by
  rw [versionUrl?_eq_find?, versionUrl?_eq_find?, h.versions_eq]

theorem names_eq : p.names = p'.names := by
  rw [names_eq_map_versions, names_eq_map_versions, h.versions_eq]

end Alike

theorem outlines_receive (p : Progress) (e : FileEntry) (name : String)
    (reply : Except RemoteError String) :
    (p.receive e name reply).representations.map (·.outline) =
      p.representations.map (·.outline) := by
  cases reply with
  | error _ => rfl
  | ok location =>
      simp only [receive_ok, addFile, List.map_map]
      apply List.map_congr_left
      intro r _
      by_cases hname : r.name = name <;> simp [hname, RepresentationReport.outline]

theorem Alike.receive {p p' : Progress} (h : p.Alike p') (e : FileEntry) (name : String)
    (reply reply' : Except RemoteError String) :
    (p.receive e name reply).Alike (p'.receive e name reply') where
  outlines := by rw [outlines_receive, outlines_receive, h.outlines]
  refused := by rw [refused_receive, refused_receive, h.refused]

end Progress

/-! ## Lockstep -/

section Lockstep

variable {request : StoreRequest} {providerId cloudId : String}

theorem issueCloudId_lockstep (key : RecordKey) :
    Lockstep SameIfDecisive Eq (issueCloudId key) (issueCloudId key) := by
  rw [issueCloudId_eq]
  refine .ask fun reply reply' hreply => ?_
  obtain rfl := hreply rfl
  cases reply with
  | ok cloudId => exact .done rfl
  | error cause =>
      dsimp only
      by_cases hconflict : cause.isConflict
      · rw [if_pos hconflict]
        refine .ask fun reply reply' hreply => ?_
        exact .done (hreply rfl)
      · rw [if_neg hconflict]
        exact .done rfl

theorem uploadAll_lockstep [Media.Guess] {p p' : Progress} (hp : p.Alike p') (es : List FileEntry) :
    Lockstep SameIfDecisive Progress.Alike (uploadAll providerId cloudId p es)
      (uploadAll providerId cloudId p' es) := by
  induction es generalizing p p' with
  | nil => exact .done hp
  | cons e es ih =>
      cases he : e.representation? with
      | none =>
          rw [uploadAll_unnamed he, uploadAll_unnamed he]
          exact ih (hp.skip e.file)
      | some name =>
          have hsend : ∀ {q q' : Progress} {url : String}, q.Alike q' → name ∉ q.refused →
              q.versionUrl? name = some url →
              Lockstep SameIfDecisive Progress.Alike (uploadAll providerId cloudId q (e :: es))
                (uploadAll providerId cloudId q' (e :: es)) := by
            intro q q' url hq hr hurl
            rw [uploadAll_send he hr hurl,
              uploadAll_send he (hq.refused ▸ hr) ((hq.versionUrl?_eq name).symm.trans hurl)]
            exact .ask fun reply reply' _ => ih (hq.receive e name reply reply')
          by_cases hr : name ∈ p.refused
          · rw [uploadAll_dropped he hr, uploadAll_dropped he (hp.refused ▸ hr)]
            exact ih (hp.skip e.file)
          · cases hurl : p.versionUrl? name with
            | some url => exact hsend hp hr hurl
            | none =>
                have hn := Progress.versionUrl?_eq_none_iff.1 hurl
                rw [uploadAll_create he hr hn,
                  uploadAll_create he (hp.refused ▸ hr) (hp.names_eq ▸ hn)]
                refine .ask fun reply reply' hreply => ?_
                obtain rfl := hreply rfl
                cases reply with
                | error cause => exact ih ((hp.refuse name).skip e.file)
                | ok url =>
                    exact hsend (hp.create name url) hr (Progress.versionUrl?_create hn)

/-- Representations of the same outline are closed by the same requests. -/
theorem closeOne_lockstep {r r' : RepresentationReport} (h : r.outline = r'.outline) :
    Lockstep SameIfDecisive (fun s s' => s.outline = s'.outline)
      (closeOne request cloudId r) (closeOne request cloudId r') := by
  obtain ⟨name, versionUrl, files, persisted, assigned⟩ := r
  obtain ⟨name', versionUrl', files', persisted', assigned'⟩ := r'
  simp only [RepresentationReport.outline, RepresentationReport.mk.injEq, true_and, and_true] at h
  obtain ⟨rfl, rfl, rfl⟩ := h
  rw [closeOne_eq, closeOne_eq]
  refine .ask fun reply reply' hreply => ?_
  obtain rfl := hreply rfl
  cases reply with
  | error cause => exact .done rfl
  | ok outcome =>
      cases hds : request.dataSetId with
      | none =>
          simp only [assign, hds]
          exact .done rfl
      | some dataSetId =>
          simp only [assign, hds]
          -- Accepted or not, the assignment is the last that is sent for this representation.
          refine .ask fun (reply reply' : Except RemoteError Unit) _ => ?_
          cases reply <;> cases reply' <;> exact .done rfl

theorem closeAll_lockstep {rs rs' : List RepresentationReport}
    (h : rs.map (·.outline) = rs'.map (·.outline)) :
    Lockstep SameIfDecisive (fun s s' => s.map (·.outline) = s'.map (·.outline))
      (closeAll request cloudId rs) (closeAll request cloudId rs') := by
  induction rs generalizing rs' with
  | nil =>
      obtain rfl := List.map_eq_nil_iff.1 h.symm
      exact .done rfl
  | cons r rs ih =>
      obtain ⟨r', rs', rfl, hr, hrs⟩ := List.map_eq_cons_iff.1 h.symm
      refine (closeOne_lockstep hr.symm).bind fun s s' hs => ?_
      refine (ih hrs.symm).bind fun ss ss' hss => .done ?_
      rw [List.map_cons, List.map_cons, hs, hss]

theorem storeFiles_lockstep [Media.Guess] (request : StoreRequest) :
    Lockstep SameIfDecisive
      (fun a a' => a.map StoreReport.outline = a'.map StoreReport.outline)
      (storeFiles request) (storeFiles request) := by
  refine (issueCloudId_lockstep _).bind fun result _ heq => ?_
  obtain rfl := heq
  cases result with
  | error cause => exact .done rfl
  | ok cloudId =>
      have hunder : Lockstep SameIfDecisive
          (fun report report' => report.outline = report'.outline)
          (storeUnder request cloudId) (storeUnder request cloudId) := by
        refine (uploadAll_lockstep ⟨rfl, rfl⟩ request.files).bind fun p p' hp => ?_
        refine (closeAll_lockstep hp.outlines).bind fun rs rs' hrs => .done ?_
        simp only [StoreReport.outline, hrs]
      refine hunder.bind fun report report' hreport => .done ?_
      exact congrArg Except.ok hreport

end Lockstep

/-! ## Created representations are closed -/

/-- Every representation is closed by calls that follow one another. -/
theorem Closing.mem_closed {request : StoreRequest} {cloudId : String}
    {rs rs' : List RepresentationReport} {xs : List Call}
    (h : Closing request cloudId rs xs rs') :
    ∀ r ∈ rs, ∃ calls, ClosingCalls request cloudId (.ofReport r) calls ∧ calls <:+: xs := by
  induction h with
  | nil => simp
  | @cons r rs rs' xs ys hr _ ih =>
      rw [List.forall_mem_cons]
      constructor
      · exact ⟨xs, hr, (List.prefix_append xs ys).isInfix⟩
      · intro r' hr'
        obtain ⟨calls, hcalls, hinfix⟩ := ih r' hr'
        exact ⟨calls, hcalls, hinfix.trans (List.suffix_append xs ys).isInfix⟩

theorem Course.mem_closed [Media.Guess] {request : StoreRequest} {report : StoreReport}
    (c : Course request report) {v : Version} (hv : v ∈ created c.log) :
    ∃ calls, ClosingCalls request report.cloudId.id v calls ∧ calls <:+: c.log := by
  rw [c.created_eq] at hv
  obtain ⟨r, hr, rfl⟩ := List.mem_map.1 hv
  obtain ⟨calls, hcalls, hinfix⟩ := c.closes.mem_closed r hr
  exact ⟨calls, hcalls, hinfix.trans (List.suffix_append _ _).isInfix⟩

theorem created_of_error [Media.Guess] {request : StoreRequest} {log : List Call}
    {cause : RemoteError}
    (h : (storeFiles request).Trace log (.error cause)) : created log = [] := by
  obtain ⟨result, ids, rest, rfl, hissued, hrest⟩ := trace_bind_iff.1 h
  cases result with
  | error cause =>
      obtain ⟨rfl, -⟩ := trace_done_iff.1 hrest
      rw [List.append_nil]
      exact Views.created.showsIn.view_eq_nil (issueCloudId_phase hissued) (by decide)
  | ok cloudId => simp [trace_bind_iff] at hrest

theorem mem_closed_of_created [Media.Guess] {σ : Type} {peer : Peer Request Reply σ} {s : σ}
    {request : StoreRequest} {v : Version}
    (hv : v ∈ created ((storeFiles request).run peer s).exchanges) :
    ∃ report, ((storeFiles request).run peer s).value = .ok report ∧
      ∃ calls, ClosingCalls request report.cloudId.id v calls ∧
        calls <:+: ((storeFiles request).run peer s).exchanges := by
  cases hvalue : ((storeFiles request).run peer s).value with
  | error cause =>
      have htrace := trace_run peer (storeFiles request) s
      rw [hvalue] at htrace
      rw [created_of_error htrace] at hv
      exact absurd hv List.not_mem_nil
  | ok report =>
      obtain ⟨c, hlog⟩ := course_of_ok hvalue
      rw [← hlog] at hv ⊢
      exact ⟨report, rfl, c.mem_closed hv⟩

/-! ## Two runs -/

/-- Whatever becomes of uploads and assignments, the same calls are made with the same arguments,
and the results differ at most in the files, the skipped paths and the assigned marks.  In each
run a created representation is asked to become persistent and, if it is and there is a data set,
assigned right after that, whether or not it has received any file. -/
theorem storeFiles_indifferent_to_uploads [Media.Guess] {σ σ' : Type} (peer : Peer Request Reply σ)
    (peer' : Peer Request Reply σ') (s : σ) (s' : σ') (request : StoreRequest)
    (h : SameDecisions ((storeFiles request).run peer s).exchanges
      ((storeFiles request).run peer' s').exchanges) :
    ((storeFiles request).run peer s).requests = ((storeFiles request).run peer' s').requests ∧
      ((storeFiles request).run peer s).value.map StoreReport.outline =
        ((storeFiles request).run peer' s').value.map StoreReport.outline ∧
      ∀ v ∈ created ((storeFiles request).run peer s).exchanges,
        ∃ report, ((storeFiles request).run peer s).value = .ok report ∧
          ∃ calls, ClosingCalls request report.cloudId.id v calls ∧
            calls <:+: ((storeFiles request).run peer s).exchanges := by
  obtain ⟨hrequests, houtlines⟩ := (storeFiles_lockstep request).trace SameDecisions.cons
    (trace_run peer _ s) (trace_run peer' _ s') h
  exact ⟨hrequests, houtlines, fun v hv => mem_closed_of_created hv⟩

/-- A repository that answers as the sample does, but receives no file and accepts no
assignment. -/
def closedPeer : Peer Request Reply Unit where
  reply _
    | .addFile .. => (.error (.missingLocation "add file"), ())
    | .assign .. => (.error (.unexpectedStatus "assign representation" 500 ""), ())
    | q => (sampleAnswer q, ())

theorem storeFiles_indifferent_to_uploads_sample :
    SameDecisions ((storeFiles sampleRequest).run samplePeer ()).exchanges
        ((storeFiles sampleRequest).run closedPeer ()).exchanges ∧
      ((storeFiles sampleRequest).run samplePeer ()).requests =
        ((storeFiles sampleRequest).run closedPeer ()).requests ∧
      ((storeFiles sampleRequest).run samplePeer ()).value.map StoreReport.outline =
        ((storeFiles sampleRequest).run closedPeer ()).value.map StoreReport.outline := by
  have h : SameDecisions ((storeFiles sampleRequest).run samplePeer ()).exchanges
      ((storeFiles sampleRequest).run closedPeer ()).exchanges :=
    ⟨matching_refl _, matching_refl _, matching_refl _, matching_refl _⟩
  obtain ⟨hrequests, houtlines, -⟩ :=
    storeFiles_indifferent_to_uploads samplePeer closedPeer () () sampleRequest h
  exact ⟨h, hrequests, houtlines⟩

end Store

end Ingest
