import Ingest.Proofs.Store.Course
import Mathlib
/-!
# No file of a record is lost

Every file of a stored record is accounted for exactly once: it is skipped, or one representation
reports it.  The main statement reads the fate of each file off the calls alone and finds the report
in agreement, file by file and in order; the numbers of files then add up.
-/

namespace Ingest.Store

open Repository

/-! ## Counting files -/

namespace Progress

variable (p : Progress)

def settled : Nat := p.skipped.length + (p.representations.map (·.files.length)).sum

@[simp] theorem settled_start : start.settled = 0 := rfl

@[simp] theorem settled_skip (file : Path) : (p.skip file).settled = p.settled + 1 := by
  simp [settled, skip]
  omega

@[simp] theorem settled_refuse (name : String) : (p.refuse name).settled = p.settled := rfl

@[simp] theorem settled_create (name url : String) : (p.create name url).settled = p.settled := by
  simp [settled, create]

theorem settled_addFile (name : String) (file : UploadedFile) :
    (p.addFile name file).settled = p.settled + p.names.count name := by
  have hsum : ∀ rs : List RepresentationReport,
      ((rs.map fun r => if r.name = name then { r with files := r.files ++ [file] } else r).map
        (·.files.length)).sum = (rs.map (·.files.length)).sum + (rs.map (·.name)).count name := by
    intro rs
    induction rs with
    | nil => rfl
    | cons r rs ih =>
        by_cases h : r.name = name
        · simp only [List.map_cons, List.sum_cons, ih, h, if_true, List.count_cons_self,
            List.length_append, List.length_singleton]
          omega
        · simp only [List.map_cons, List.sum_cons, ih, h, if_false,
            List.count_cons_of_ne h]
          omega
  simp only [settled, addFile, hsum, names]
  omega

end Progress

namespace Uploads

variable [Media.Guess] {providerId cloudId : String} {p p' : Progress} {as : List Account}
  {xs : List Call}

theorem settled_eq (h : Uploads providerId cloudId p as xs p') (hp : p.Consistent) :
    p'.settled = p.settled + as.length := by
  induction h with
  | nil p => rfl
  | unnamed _ _ ih =>
      rw [ih (hp.skip _), Progress.settled_skip, List.length_cons]
      omega
  | drop _ _ _ ih =>
      rw [ih (hp.skip _), Progress.settled_skip, List.length_cons]
      omega
  | refuse cause _ hr hn _ ih =>
      rw [ih ((hp.refuse hr hn).skip _), Progress.settled_skip, Progress.settled_refuse,
        List.length_cons]
      omega
  | create url _ hr hn _ ih => rw [ih (hp.create hr hn url), Progress.settled_create]
  | @send p p' e name url as xs reply _ _ hurl _ ih =>
      rw [ih (hp.receive e reply), List.length_cons]
      cases reply with
      | error _ =>
          rw [Progress.receive_error, Progress.settled_skip]
          omega
      | ok location =>
          have hone : p.names.count name = 1 :=
            List.count_eq_one_of_mem hp.names_nodup (Progress.mem_names_of_versionUrl? hurl)
          rw [Progress.receive_ok, Progress.settled_addFile, hone]
          omega

end Uploads

/-! ## The fate of a file -/

/-- A file is skipped for one of three reasons: it has no representation, its representation was
refused, or its own upload failed. -/
def Account.LeftOut (names : List String) (a : Account) : Prop :=
  a.entry.representation? = none ∨
    (∃ name, a.entry.representation? = some name ∧ name ∈ names) ∨
    ∃ u cause, a.upload = some u ∧ u.reply = .error cause

theorem isTried_eq_false_iff {names : List String} {e : FileEntry} :
    isTried names e = false ↔
      e.representation? = none ∨ ∃ name, e.representation? = some name ∧ name ∈ names := by
  cases h : e.representation? <;> simp [isTried, h]

theorem Account.isSkipped_iff {names : List String} {a : Account}
    (h : a.upload.isSome = isTried names a.entry) : a.isSkipped ↔ a.LeftOut names := by
  obtain ⟨e, upload⟩ := a
  cases upload with
  | none =>
      have hnot := isTried_eq_false_iff.1 h.symm
      simp [isSkipped, location?, LeftOut, hnot]
  | some u =>
      have hnot : ¬(e.representation? = none ∨
          ∃ name, e.representation? = some name ∧ name ∈ names) := by
        rw [← isTried_eq_false_iff, ← h]
        simp
      obtain ⟨hnamed, hfree⟩ := not_or.1 hnot
      cases hreply : u.reply <;>
        simp [isSkipped, location?, LeftOut, hnamed, hfree, hreply, Except.toOption]

/-- The accounts of the files in a log, and the report that agrees with them. -/
structure Accounted [Media.Guess] (files : List FileEntry) (log : List Call)
    (report : StoreReport) : Prop where
  /-- There is one account for each file, in order. -/
  entries : (accountsOf files log).map (·.entry) = files
  /-- The uploads of the log are the files' own. -/
  uploads : (accountsOf files log).filterMap (·.upload) = uploads log
  own : ∀ a ∈ accountsOf files log, ∀ u, a.upload = some u → u.file = a.entry.upload
  skipped_iff : ∀ a ∈ accountsOf files log, a.isSkipped ↔ a.LeftOut (refused log)
  skipped : report.skipped = ((accountsOf files log).filter (·.isSkipped)).map (·.entry.file)
  received : ∀ r ∈ report.representations, r.files = filesOf r.name (accountsOf files log)
  count : files.length = report.skipped.length + (report.representations.map (·.files.length)).sum

/-! ## Conservation -/

namespace Course

variable [Media.Guess] {request : StoreRequest} {report : StoreReport} (c : Course request report)

include c

theorem received_accounts :
    ∀ r ∈ report.representations, r.files = filesOf r.name c.accounts := by
  have hkept := c.closes.map_eq (f := fun r => (r.name, r.files)) fun _ _ => rfl
  have hopened : ∀ q ∈ c.progress.representations, q.files = filesOf q.name c.accounts := by
    intro q hq
    rw [c.uploads.representations_eq] at hq
    obtain ⟨r, hr, rfl⟩ := List.mem_map.1 hq
    simp only [Progress.start, List.nil_append, List.mem_map] at hr
    obtain ⟨v, -, rfl⟩ := hr
    simp [addFiles, Version.empty]
  intro r hr
  have hpair : (r.name, r.files) ∈ c.progress.representations.map fun r => (r.name, r.files) := by
    rw [← hkept]
    exact List.mem_map_of_mem hr
  obtain ⟨q, hq, heq⟩ := List.mem_map.1 hpair
  obtain ⟨hname, hfiles⟩ := Prod.mk.inj heq
  rw [← hname, ← hfiles]
  exact hopened q hq

theorem count_files :
    request.files.length =
      report.skipped.length + (report.representations.map (·.files.length)).sum := by
  have hkept := c.closes.map_eq (f := (·.files.length)) fun _ _ => rfl
  have hsettled := c.uploads.settled_eq Progress.consistent_start
  rw [Progress.settled_start, Nat.zero_add] at hsettled
  rw [hkept, c.skipped_eq, ← c.files_eq, List.length_map]
  exact hsettled.symm

theorem accounted : Accounted request.files c.log report where
  entries := by rw [c.accountsOf_eq, c.files_eq]
  uploads := by
    rw [c.accountsOf_eq, ← c.uploads.uploads_eq]
    exact (c.view_eq Views.uploads.showsIn).symm
  own := by
    rw [c.accountsOf_eq]
    exact c.uploads.upload_file
  skipped_iff := by
    rw [c.accountsOf_eq, c.refused_eq]
    exact fun a ha =>
      Account.isSkipped_iff (c.uploads.isSome_upload Progress.consistent_start a ha)
  skipped := by rw [c.accountsOf_eq, c.skipped_accounts]
  received := by
    rw [c.accountsOf_eq]
    exact c.received_accounts
  count := c.count_files

end Course

/-- Whatever the repository answers, a record that is stored accounts for each of its files once. -/
theorem storeFiles_accounts_for_files [Media.Guess] {σ : Type} (peer : Peer Request Reply σ) (s : σ)
    (request : StoreRequest) (report : StoreReport)
    (h : ((storeFiles request).run peer s).value = .ok report) :
    Accounted request.files ((storeFiles request).run peer s).exchanges report := by
  obtain ⟨c, hlog⟩ := course_of_ok h
  rw [← hlog]
  exact c.accounted

theorem storeFiles_accounts_for_sample :
    ((storeFiles sampleRequest).run samplePeer ()).value = .ok sampleReport ∧
      Accounted sampleRequest.files ((storeFiles sampleRequest).run samplePeer ()).exchanges
        sampleReport :=
  ⟨rfl, storeFiles_accounts_for_files samplePeer () sampleRequest sampleReport rfl⟩

end Ingest.Store
