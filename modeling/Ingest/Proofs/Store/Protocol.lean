import Ingest.Proofs.Store.Course
/-!
# The call protocol of a record

Behind the identifier come the uploads and behind them the closing.  The main statement says which
calls each phase holds, in which order, and where every argument comes from: the identifier, the
request, or the reply to one earlier call.
-/

namespace Ingest.Store

open Repository

/-- What the calls behind the identifier look like. -/
structure Protocol [Media.Guess] (request : StoreRequest) (cloudId : CloudId)
    (uploading closing : List Call) : Prop where
  /-- First come creations and uploads only. -/
  uploading_phase : ∀ x ∈ uploading, x.phase = .uploading
  /-- A creation is made under the identifier and for the provider of the record. -/
  creation_arguments : ∀ x ∈ uploading, ∀ id name providerId,
    x.request = .createRepresentation id name providerId →
      id = cloudId.id ∧ providerId = request.providerId
  /-- No two creations return a version for the same name. -/
  created_nodup : ((created uploading).map (·.name)).Nodup
  /-- The uploads are those of the files that are tried, in order.  Each goes to the version that
  the creation of its file's representation has returned before. -/
  upload_arguments : ∀ pre url file reply post,
    uploading = pre ++ ⟨.addFile url file, reply⟩ :: post →
      ∃ e name, (request.files.filter (isTried (refused uploading)))[(uploads pre).length]? =
          some e ∧
        file = e.upload ∧ e.representation? = some name ∧ ⟨name, url⟩ ∈ created pre
  /-- Then each created representation is closed, one after the other. -/
  closing_blocks : ∃ blocks, closing = blocks.flatten ∧
    List.Forall₂ (ClosingCalls request cloudId.id) (created uploading) blocks
  /-- Nothing is uploaded once a version was asked to become persistent. -/
  frozen : ∀ pre x post, uploading ++ closing = pre ++ x :: post → x.persist?.isSome →
    uploads post = []

/-! ## Arguments of the uploads -/

namespace Uploads

variable [Media.Guess] {providerId cloudId : String} {p p' : Progress} {as : List Account}
  {xs : List Call}

theorem creation_arguments (h : Uploads providerId cloudId p as xs p') :
    ∀ x ∈ xs, ∀ id name provider, x.request = .createRepresentation id name provider →
      id = cloudId ∧ provider = providerId := by
  induction h with
  | nil p => simp
  | unnamed _ _ ih => exact ih
  | drop _ _ _ ih => exact ih
  | refuse cause _ _ _ _ ih =>
      rw [List.forall_mem_cons]
      refine ⟨?_, ih⟩
      rintro id name provider ⟨⟩
      exact ⟨rfl, rfl⟩
  | create url _ _ _ _ ih =>
      rw [List.forall_mem_cons]
      refine ⟨?_, ih⟩
      rintro id name provider ⟨⟩
      exact ⟨rfl, rfl⟩
  | send reply _ _ _ _ ih =>
      rw [List.forall_mem_cons]
      refine ⟨?_, ih⟩
      rintro id name provider ⟨⟩

/-- An upload is of the file whose turn it is, and goes to a version that is there by then. -/
theorem upload_at (h : Uploads providerId cloudId p as xs p') :
    ∀ pre url file reply post, xs = pre ++ ⟨.addFile url file, reply⟩ :: post →
      ∃ a name, (as.filter (·.upload.isSome))[(Store.uploads pre).length]? = some a ∧
        file = a.entry.upload ∧ a.entry.representation? = some name ∧
        ⟨name, url⟩ ∈ p.versions ++ Store.created pre := by
  induction h with
  | nil p =>
      intro pre url file reply post heq
      simp at heq
  | unnamed _ _ ih => simpa using ih
  | drop _ _ _ ih => simpa using ih
  | refuse cause _ _ _ _ ih =>
      intro pre url file reply post heq
      obtain _ | ⟨x, pre⟩ := pre
      · simp at heq
      · obtain ⟨rfl, hrest⟩ := List.cons.inj heq
        simpa using ih pre url file reply post hrest
  | create url _ _ _ _ ih =>
      intro pre url' file reply post heq
      obtain _ | ⟨x, pre⟩ := pre
      · simp at heq
      · obtain ⟨rfl, hrest⟩ := List.cons.inj heq
        simpa using ih pre url' file reply post hrest
  | @send p p' e name url as xs reply he _ hurl _ ih =>
      intro pre url' file reply' post heq
      obtain _ | ⟨x, pre⟩ := pre
      · obtain ⟨hcall, -⟩ := List.cons.inj heq
        obtain ⟨⟨rfl, rfl⟩, -⟩ := by simpa using hcall
        exact ⟨_, name, rfl, rfl, he, by simpa using Progress.mem_versions_of_versionUrl? hurl⟩
      · obtain ⟨rfl, hrest⟩ := List.cons.inj heq
        simpa using ih pre url' file reply' post hrest

end Uploads

/-! ## The protocol of a run -/

namespace Course

variable [Media.Guess] {request : StoreRequest} {report : StoreReport} (c : Course request report)

include c

theorem mem_closing_of_persist {pre post : List Call} {x : Call}
    (hlog : c.uploading ++ c.closing = pre ++ x :: post) (hx : x.persist?.isSome) :
    ∀ y ∈ post, y ∈ c.closing := by
  have hnot : x ∉ c.uploading := by
    intro hmem
    have hnone : x.persist? = none :=
      Views.persists.showsIn x (by simp [c.uploading_phase x hmem])
    rw [hnone] at hx
    exact Bool.noConfusion hx
  obtain ⟨mid, rfl, hclosing⟩ | ⟨mid, huploading, hrest⟩ := List.append_eq_append_iff.1 hlog
  · intro y hy
    simp [hclosing, hy]
  · obtain _ | ⟨y, mid⟩ := mid
    · intro y hy
      rw [List.nil_append] at hrest
      simp [← hrest, hy]
    · obtain ⟨rfl, -⟩ := List.cons.inj hrest
      exact absurd (by simp [huploading]) hnot

theorem protocol : Protocol request report.cloudId c.uploading c.closing where
  uploading_phase := c.uploading_phase
  creation_arguments := c.uploads.creation_arguments
  created_nodup := by
    have hnames := c.uploads.names_eq
    rw [Progress.names_start, List.nil_append] at hnames
    rw [← hnames]
    exact c.consistent.names_nodup
  upload_arguments := by
    intro pre url file reply post heq
    obtain ⟨a, name, hturn, hfile, hname, hversion⟩ :=
      c.uploads.upload_at pre url file reply post heq
    have hrefused : refused c.uploading = c.progress.refused := by
      rw [c.uploads.refused_eq, Progress.refused_start, List.nil_append]
    refine ⟨a.entry, name, ?_, hfile, hname, hversion⟩
    rw [hrefused, ← c.files_eq, c.uploads.tried_eq Progress.consistent_start, List.getElem?_map,
      hturn]
    rfl
  closing_blocks := by
    obtain ⟨blocks, hblocks, hall⟩ := c.closes.blocks
    have hversions : created c.uploading = c.progress.versions := by
      rw [c.uploads.versions_eq]
      rfl
    refine ⟨blocks, hblocks, ?_⟩
    rw [hversions]
    exact hall
  frozen := by
    intro pre x post hlog hx
    have hphase : ∀ y ∈ post, y.phase = .closing := fun y hy =>
      c.closing_phase y (c.mem_closing_of_persist hlog hx y hy)
    exact Views.uploads.showsIn.view_eq_nil hphase (by decide)

end Course

/-- Whatever the repository answers, a record that has an identifier is stored by the protocol. -/
theorem storeFiles_follows_protocol [Media.Guess] {σ : Type} (peer : Peer Request Reply σ) (s : σ)
    (request : StoreRequest) (cloudId : CloudId)
    (h : ((issueCloudId ⟨request.providerId, request.recordId⟩).run peer s).value = .ok cloudId) :
    ∃ uploading closing,
      ((storeFiles request).run peer s).exchanges =
        ((issueCloudId ⟨request.providerId, request.recordId⟩).run peer s).exchanges ++
          uploading ++ closing ∧
      Protocol request cloudId uploading closing := by
  obtain ⟨report, -, rfl, c, hlog, hissued⟩ := course_of_issued h
  refine ⟨c.uploading, c.closing, ?_, c.protocol⟩
  rw [← hlog, ← hissued]
  rfl

theorem storeFiles_follows_protocol_sample :
    ((issueCloudId ⟨sampleRequest.providerId, sampleRequest.recordId⟩).run samplePeer ()).value =
        .ok sampleReport.cloudId ∧
      ∃ uploading closing,
        ((storeFiles sampleRequest).run samplePeer ()).exchanges =
          ((issueCloudId ⟨sampleRequest.providerId, sampleRequest.recordId⟩).run
            samplePeer ()).exchanges ++ uploading ++ closing ∧
        Protocol sampleRequest sampleReport.cloudId uploading closing ∧
        created uploading ≠ [] ∧ persists closing = ["http://h/edm/v1", "http://h/txt/v1"] := by
  obtain ⟨uploading, closing, hlog, hprotocol⟩ :=
    storeFiles_follows_protocol samplePeer () sampleRequest sampleReport.cloudId rfl
  have hpersists : persists closing = ["http://h/edm/v1", "http://h/txt/v1"] := by
    have huploading := Views.persists.showsIn.view_eq_nil hprotocol.uploading_phase (by decide)
    have hall := congrArg persists hlog
    simp only [view_append, huploading] at hall
    exact hall.symm
  refine ⟨rfl, uploading, closing, hlog, hprotocol, ?_, hpersists⟩
  intro hnil
  obtain ⟨blocks, rfl, hblocks⟩ := hprotocol.closing_blocks
  rw [hnil] at hblocks
  cases hblocks
  cases hpersists

end Ingest.Store
