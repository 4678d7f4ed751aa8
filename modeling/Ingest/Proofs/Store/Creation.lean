import Ingest.Proofs.Store.Projection
/-!
# Representations are created once

A representation is asked for when its first file comes up, and never again: the names that are
asked for are the distinct names of the files.  A name that was refused gets no further call, and
the report lists the others.
-/

namespace Ingest.Store

open Repository

/-- What creations a record makes, and what becomes of their names. -/
structure Creations [Media.Guess] (request : StoreRequest) (cloudId : CloudId) (log : List Call)
    (report : StoreReport) : Prop where
  /-- Each name of a file is asked for once, in the order of first appearance. -/
  asked_eq : asked log = (request.files.filterMap (·.representation?)).eraseDups
  /-- The report lists the representations that were created. -/
  created_eq : report.representations.map Version.ofReport = created log
  names_eq : report.representations.map (·.name) = (asked log).filter (· ∉ refused log)
  names_nodup : (report.representations.map (·.name)).Nodup
  /-- The files that are sent are those whose representation was not refused. -/
  uploads_eq : (uploads log).map (·.file) =
    (request.files.filter (isTried (refused log))).map (·.upload)
  /-- Each created representation is asked to become persistent, and nothing else is. -/
  persists_eq : persists log = report.representations.map (·.versionUrl)
  /-- The only call for a name that was refused is its creation. -/
  refused_calls : ∀ name ∈ refused log, (callsFor name request.files log).map (·.request) =
    [.createRepresentation cloudId.id name request.providerId]

namespace Uploads

variable [Media.Guess] {providerId cloudId : String} {p p' : Progress} {as : List Account}
  {xs : List Call}

theorem created_names_eq (h : Uploads providerId cloudId p as xs p') (hp : p.Consistent) :
    (created xs).map (·.name) = (asked xs).filter (· ∉ p'.refused) := by
  induction h with
  | nil p => rfl
  | unnamed _ _ ih => exact ih (hp.skip _)
  | drop _ _ _ ih => exact ih (hp.skip _)
  | @refuse p p' e name as xs cause _ hr hn hrest ih =>
      have hmem : name ∈ p'.refused := by simp [hrest.refused_eq]
      simpa [hmem] using ih ((hp.refuse hr hn).skip _)
  | @create p p' a name as xs url _ hr hn hrest ih =>
      have hmem : name ∈ p'.names := by simp [hrest.names_eq]
      have hfree := (hrest.consistent (hp.create hr hn url)).disjoint name hmem
      simpa [hfree] using ih (hp.create hr hn url)
  | @send p p' e name url as xs reply _ _ _ _ ih => simpa using ih (hp.receive e reply)

/-- For a name that is refused in the end there is at most its creation. -/
theorem calls_of_refused (h : Uploads providerId cloudId p as xs p') (hp : p.Consistent)
    {name : String} (hname : name ∈ p'.refused) :
    (madeFor name (withOwners (as.filterMap (·.sender?)) [] xs)).map (·.request) =
      if name ∈ p.refused then [] else [.createRepresentation cloudId name providerId] := by
  induction h with
  | nil p => simp [withOwners, hname]
  | unnamed _ _ ih => exact ih (hp.skip _) hname
  | drop _ _ _ ih => exact ih (hp.skip _) hname
  | @refuse p p' e other as xs cause he hr hn hrest ih =>
      have hrest := ih ((hp.refuse hr hn).skip _) hname
      by_cases h : other = name
      · subst h
        simpa [withOwners, madeFor_cons, Account.sender?, hr] using hrest
      · simpa [withOwners, madeFor_cons, Account.sender?, h, Ne.symm h] using hrest
  | @create p p' a other as xs url he hr hn hrest ih =>
      -- What is created now is among the names in the end, and those are not refused.
      have hmem : other ∈ p'.names := by simp [hrest.names_eq]
      have hfree := (hrest.consistent (hp.create hr hn url)).disjoint other hmem
      have h : other ≠ name := fun heq => hfree (heq ▸ hname)
      rw [withOwners, madeFor_cons, if_neg (by simpa using h)]
      exact ih (hp.create hr hn url) hname
  | @send p p' e other url as xs reply he hr hurl hrest ih =>
      have hmem : other ∈ p'.names := by
        simp [hrest.names_eq, Progress.mem_names_of_versionUrl? hurl]
      have hfree := (hrest.consistent (hp.receive e reply)).disjoint other hmem
      have h : other ≠ name := fun heq => hfree (heq ▸ hname)
      simpa [withOwners, madeFor_cons, Account.sender?, he, h] using ih (hp.receive e reply) hname

end Uploads

theorem Closing.calls_of_absent {request : StoreRequest} {cloudId : String}
    {rs rs' : List RepresentationReport} {xs : List Call}
    (h : Closing request cloudId rs xs rs') {name : String} (hname : name ∉ rs.map (·.name)) :
    madeFor name (withOwners [] (rs.map (·.name)) xs) = [] := by
  have hnone : rs.filter (·.name = name) = [] := by
    rw [List.filter_eq_nil_iff]
    intro r hr hr'
    exact hname (List.mem_map.2 ⟨r, hr, by simpa using hr'⟩)
  have honly := h.only name
  rw [hnone] at honly
  generalize madeFor name (withOwners [] (rs.map (·.name)) xs) = ys at honly
  generalize rs'.filter (·.name = name) = qs at honly
  cases honly
  rfl

namespace Course

variable [Media.Guess] {request : StoreRequest} {report : StoreReport} (c : Course request report)

theorem creations : Creations request report.cloudId c.log report := by
  have hversions := c.closes.map_eq (f := Version.ofReport) fun _ _ => rfl
  have hnames := c.closes.map_eq (f := (·.name)) fun _ _ => rfl
  have hurls := c.closes.map_eq (f := (·.versionUrl)) fun _ _ => rfl
  have hasked : asked c.log = asked c.uploading := c.view_eq Views.asked.showsIn
  constructor
  · have hnew : Progress.start.isNew = fun _ => true := funext Progress.isNew_start
    rw [hasked, c.uploads.asked_eq, ← c.files_eq, hnew, List.filter_true, List.filterMap_map]
    rfl
  · rw [hversions, c.created_eq]
    rfl
  · have hcreated := c.uploads.created_names_eq Progress.consistent_start
    have hopened := c.uploads.names_eq
    rw [hnames, hasked, c.refused_eq, ← hcreated]
    exact hopened
  · rw [hnames]
    exact c.consistent.names_nodup
  · have huploads : Store.uploads c.log = Store.uploads c.uploading := c.view_eq Views.uploads.showsIn
    rw [huploads, c.refused_eq, ← c.files_eq]
    exact c.uploads.sent_eq Progress.consistent_start
  · have hids := Views.persists.showsIn.view_eq_nil c.identifying_phase (by decide)
    have hus := Views.persists.showsIn.view_eq_nil c.uploading_phase (by decide)
    rw [hurls, ← c.closes.persists_eq]
    simp [log, hids, hus]
  · intro name hname
    rw [c.refused_eq] at hname
    have habsent : name ∉ c.progress.names := fun hmem => c.consistent.disjoint name hmem hname
    have hcalls := c.uploads.calls_of_refused Progress.consistent_start hname
    have hclosed : madeFor name (withOwners [] c.progress.names c.closing) = [] :=
      c.closes.calls_of_absent habsent
    rw [c.callsFor_eq, List.map_append, hcalls, hclosed]
    rfl

end Course

/-- Whatever the repository answers, a record that has an identifier creates each of its
representations once and gives up those that are refused. -/
theorem storeFiles_creates_once [Media.Guess] {σ : Type} (peer : Peer Request Reply σ) (s : σ)
    (request : StoreRequest) (cloudId : CloudId)
    (h : ((issueCloudId ⟨request.providerId, request.recordId⟩).run peer s).value = .ok cloudId) :
    ∃ report, ((storeFiles request).run peer s).value = .ok report ∧
      Creations request cloudId ((storeFiles request).run peer s).exchanges report := by
  obtain ⟨report, hvalue, rfl, c, hlog, -⟩ := course_of_issued h
  refine ⟨report, hvalue, ?_⟩
  rw [← hlog]
  exact c.creations

theorem storeFiles_creates_once_sample :
    ((issueCloudId ⟨sampleRequest.providerId, sampleRequest.recordId⟩).run samplePeer ()).value =
        .ok sampleReport.cloudId ∧
      ∃ report, ((storeFiles sampleRequest).run samplePeer ()).value = .ok report ∧
        Creations sampleRequest sampleReport.cloudId
          ((storeFiles sampleRequest).run samplePeer ()).exchanges report :=
  ⟨rfl, storeFiles_creates_once samplePeer () sampleRequest sampleReport.cloudId rfl⟩

end Ingest.Store
