import Ingest.Media.Common
import Ingest.Proofs.Store.Closing
import Ingest.Proofs.Store.Uploads
/-!
# The course of a record

A record that is stored passes through three phases: its identifier, its uploads and its closing.
A `Course` is a log cut into these phases, with the steps that each of them takes.  Every successful
run has one, and the views of its log are those of the phase they belong to.
-/

namespace Ingest.Store

open Repository Dialogue

/-- The phases of a run that ends with a report, and the steps they are made of. -/
structure Course [Media.Guess] (request : StoreRequest) (report : StoreReport) where
  identifying : List Call
  uploading : List Call
  closing : List Call
  accounts : List Account
  progress : Progress
  issued : (issueCloudId ⟨request.providerId, request.recordId⟩).Trace identifying
    (.ok report.cloudId)
  files_eq : accounts.map (·.entry) = request.files
  uploads : Uploads request.providerId report.cloudId.id .start accounts uploading progress
  closes : Closing request report.cloudId.id progress.representations closing
    report.representations
  skipped_eq : report.skipped = progress.skipped

def Course.log [Media.Guess] {request : StoreRequest} {report : StoreReport}
    (c : Course request report) :
    List Call :=
  c.identifying ++ c.uploading ++ c.closing

/-! ## Traces -/

theorem issueCloudId_eq (key : RecordKey) :
    issueCloudId key = .ask (.createCloudId key) fun
      | .ok cloudId => .done (.ok cloudId)
      | .error cause =>
        if cause.isConflict then
          .ask (.getCloudId key) fun (reply : Except RemoteError CloudId) => .done reply
        else .done (.error cause) := rfl

theorem issueCloudId_phase {key : RecordKey} {xs : List Call}
    {result : Except RemoteError CloudId} (h : (issueCloudId key).Trace xs result) :
    ∀ x ∈ xs, x.phase = .identifying := by
  rw [issueCloudId_eq] at h
  obtain ⟨reply, ys, rfl, hnext⟩ := trace_ask_iff.1 h
  rw [List.forall_mem_cons]
  refine ⟨rfl, ?_⟩
  cases reply with
  | ok cloudId =>
      obtain ⟨rfl, -⟩ := trace_done_iff.1 hnext
      simp
  | error cause =>
      dsimp only at hnext
      by_cases hconflict : cause.isConflict
      · rw [if_pos hconflict] at hnext
        obtain ⟨_, zs, rfl, hlast⟩ := trace_ask_iff.1 hnext
        obtain ⟨rfl, -⟩ := trace_done_iff.1 hlast
        simp [Call.phase]
      · rw [if_neg hconflict] at hnext
        obtain ⟨rfl, -⟩ := trace_done_iff.1 hnext
        simp

theorem trace_storeUnder_iff [Media.Guess] {request : StoreRequest} {cloudId : CloudId}
    {xs : List Call} {report : StoreReport} :
    (storeUnder request cloudId).Trace xs report ↔
      ∃ as p us cs, xs = us ++ cs ∧ as.map (·.entry) = request.files ∧
        Uploads request.providerId cloudId.id .start as us p ∧
        Closing request cloudId.id p.representations cs report.representations ∧
        report.cloudId = cloudId ∧ report.skipped = p.skipped := by
  simp only [storeUnder, trace_bind_iff, trace_uploadAll_iff, trace_closeAll_iff, pure_eq_done,
    trace_done_iff]
  constructor
  · rintro ⟨p, us, _, rfl, ⟨as, has, hus⟩, rs, cs, _, rfl, hcs, rfl, rfl⟩
    exact ⟨as, p, us, cs, by simp, has, hus, hcs, rfl, rfl⟩
  · rintro ⟨as, p, us, cs, rfl, has, hus, hcs, rfl, hskipped⟩
    refine ⟨p, us, cs, rfl, ⟨as, has, hus⟩, report.representations, cs, [], by simp, hcs, rfl, ?_⟩
    rw [← hskipped]

/-- The traces that end with a report are those that have a course. -/
theorem trace_storeFiles_iff [Media.Guess] {request : StoreRequest} {log : List Call}
    {report : StoreReport} :
    (storeFiles request).Trace log (.ok report) ↔
      ∃ c : Course request report, c.log = log := by
  simp only [storeFiles, trace_bind_iff]
  constructor
  · rintro ⟨result, ids, rest, rfl, hissued, h⟩
    cases result with
    | error cause => simp at h
    | ok cloudId =>
        simp only [trace_bind_iff, pure_eq_done, trace_done_iff, trace_storeUnder_iff] at h
        obtain ⟨_, _, _, rfl, ⟨as, p, us, cs, rfl, has, hus, hcs, rfl, hskipped⟩, rfl, h⟩ := h
        obtain rfl := Except.ok.inj h
        exact ⟨⟨ids, us, cs, as, p, hissued, has, hus, hcs, hskipped⟩, by simp [Course.log]⟩
  · rintro ⟨c, rfl⟩
    refine ⟨.ok report.cloudId, c.identifying, c.uploading ++ c.closing,
      List.append_assoc .., c.issued, ?_⟩
    · simp only [trace_bind_iff, pure_eq_done, trace_done_iff, trace_storeUnder_iff]
      exact ⟨report, c.uploading ++ c.closing, [], by simp,
        ⟨c.accounts, c.progress, c.uploading, c.closing, rfl, c.files_eq, c.uploads, c.closes,
          rfl, c.skipped_eq⟩, rfl, rfl⟩

/-! ## Runs -/

section Runs

variable [Media.Guess] {σ : Type} {peer : Peer Request Reply σ} {s : σ} {request : StoreRequest}

theorem course_of_ok {report : StoreReport}
    (h : ((storeFiles request).run peer s).value = .ok report) :
    ∃ c : Course request report, c.log = ((storeFiles request).run peer s).exchanges := by
  rw [← trace_storeFiles_iff, ← h]
  exact trace_run peer _ s

/-- Once it has an identifier a record is stored, whatever the other calls answer. -/
theorem course_of_issued {cloudId : CloudId}
    (h : ((issueCloudId ⟨request.providerId, request.recordId⟩).run peer s).value = .ok cloudId) :
    ∃ report, ((storeFiles request).run peer s).value = .ok report ∧ report.cloudId = cloudId ∧
      ∃ c : Course request report, c.log = ((storeFiles request).run peer s).exchanges ∧
        c.identifying =
          ((issueCloudId ⟨request.providerId, request.recordId⟩).run peer s).exchanges := by
  have hissued := trace_run peer (issueCloudId ⟨request.providerId, request.recordId⟩) s
  rw [h] at hissued
  generalize hfirst : (issueCloudId ⟨request.providerId, request.recordId⟩).run peer s = first
    at h hissued
  have hrun : (storeFiles request).run peer s =
      let rest := (storeUnder request cloudId).run peer first.state
      ⟨.ok rest.value, rest.state, first.exchanges ++ rest.exchanges⟩ := by
    simp [storeFiles, run_bind, hfirst, h]
  rw [hrun]
  have hrest := trace_run peer (storeUnder request cloudId) first.state
  generalize (storeUnder request cloudId).run peer first.state = rest at hrest
  obtain ⟨as, p, us, cs, hlog, has, hus, hcs, rfl, hskipped⟩ := trace_storeUnder_iff.1 hrest
  refine ⟨rest.value, rfl, rfl,
    ⟨first.exchanges, us, cs, as, p, hissued, has, hus, hcs, hskipped⟩, ?_, rfl⟩
  rw [Course.log, List.append_assoc, ← hlog]

end Runs

/-! ## Views -/

namespace Course

variable [Media.Guess] {request : StoreRequest} {report : StoreReport} (c : Course request report)

theorem identifying_phase : ∀ x ∈ c.identifying, x.phase = .identifying :=
  issueCloudId_phase c.issued

theorem uploading_phase : ∀ x ∈ c.uploading, x.phase = .uploading := c.uploads.phase

theorem closing_phase : ∀ x ∈ c.closing, x.phase = .closing := c.closes.phase

theorem consistent : c.progress.Consistent := c.uploads.consistent Progress.consistent_start

theorem view_eq {β : Type} {f : Call → Option β} (hf : ShowsIn f .uploading) :
    view f c.log = view f c.uploading := by
  have hids := hf.view_eq_nil c.identifying_phase (by decide)
  have hcs := hf.view_eq_nil c.closing_phase (by decide)
  simp [log, hids, hcs]

theorem created_eq : created c.log = c.progress.versions := by
  rw [created, c.view_eq Views.created.showsIn, c.uploads.versions_eq]
  rfl

theorem refused_eq : refused c.log = c.progress.refused := by
  rw [refused, c.view_eq Views.refused.showsIn, c.uploads.refused_eq]
  rfl

theorem accountsOf_eq : accountsOf request.files c.log = c.accounts := by
  have huploads : Store.uploads c.log = Store.uploads c.uploading := c.view_eq Views.uploads.showsIn
  rw [accountsOf, c.refused_eq, huploads, ← c.files_eq]
  exact c.uploads.accounts_eq Progress.consistent_start

include c in
theorem skipped_accounts :
    report.skipped = (c.accounts.filter (·.isSkipped)).map (·.entry.file) := by
  rw [c.skipped_eq, c.uploads.skipped_eq]
  rfl

end Course

/-! ## A sample repository -/

/-- Answers that depend on the request alone: the record exists already, one representation is
refused and one file fails. -/
def sampleAnswer : (q : Request) → Reply q
  | .createProvider .. | .createDataSet .. => .ok ()
  | .createCloudId _ => .error (.unexpectedStatus "create cloud id" 409 "")
  | .getCloudId key => .ok ⟨"C1", key.providerId, "rec"⟩
  | .createRepresentation _ name _ =>
    if name = "raw" then .error (.missingLocation "create representation")
    else .ok ("http://h/" ++ name ++ "/v1")
  | .addFile url file =>
    if file.fileName = "b.xml" then .error (.missingLocation "add file")
    else .ok (url ++ "/files/" ++ file.fileName)
  | .persist url => .ok (.persisted (some (url ++ "/p")))
  | .assign .. => .ok ()

def samplePeer : Peer Request Reply Unit := ⟨fun _ q => (sampleAnswer q, ())⟩

def sampleRequest : StoreRequest :=
  ⟨"prov", some "ds", some "rec",
    [.named "edm" ⟨"d/a.xml"⟩, .path ⟨"d/README"⟩, .named "raw" ⟨"d/x"⟩, .named "edm" ⟨"d/b.xml"⟩,
      .path ⟨"e/c.TXT"⟩, .named "raw" ⟨"y"⟩, .named "txt" ⟨"z"⟩]⟩

def sampleReport : StoreReport :=
  ⟨⟨"C1", "prov", "rec"⟩,
    [⟨"edm", "http://h/edm/v1", [⟨"a.xml", "http://h/edm/v1/files/a.xml"⟩], true, true⟩,
      ⟨"txt", "http://h/txt/v1",
        [⟨"c.TXT", "http://h/txt/v1/files/c.TXT"⟩, ⟨"z", "http://h/txt/v1/files/z"⟩], true, true⟩],
    [⟨"d/README"⟩, ⟨"d/x"⟩, ⟨"d/b.xml"⟩, ⟨"y"⟩]⟩

example : ((storeFiles sampleRequest).run samplePeer ()).value = .ok sampleReport := rfl

end Ingest.Store
