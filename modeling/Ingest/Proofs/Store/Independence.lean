import Ingest.Proofs.Store.Projection
/-!
# Representations do not interfere

When the answers of the repository depend on the requests alone, what becomes of a representation
depends on its own files alone.  Two records that differ in other files, or in the order of files
across representations, project to the same course, and answers that are determined leave one course
only.
-/

namespace Ingest

def StoreReport.representation? (report : StoreReport) (name : String) :
    Option RepresentationReport :=
  report.representations.find? (·.name = name)

namespace Store

open Repository Dialogue

/-- Two runs over different files agree on a representation. -/
structure AgreeOn (name : String) (files files' : List FileEntry) (log log' : List Call)
    (report report' : StoreReport) : Prop where
  report_eq : report'.representation? name = report.representation? name
  calls_eq : callsFor name files' log' = callsFor name files log
  skipped_eq : skippedOf name (accountsOf files' log') = skippedOf name (accountsOf files log)

/-! ## Courses with determined answers -/

namespace Course

variable [Media.Guess] {answer : (q : Request) → Reply q} {request request' : StoreRequest}
  {report report' : StoreReport} {name : String}

/-- The projection of a course is the trace of the record with the files of one representation. -/
theorem trace_only (c : Course request report) (hc : AnsweredBy answer c.log) (name : String) :
    (storeFiles (request.only name)).Trace (c.identifying ++ callsFor name request.files c.log)
        (.ok (report.only name (skippedOf name (accountsOf request.files c.log)))) ∧
      AnsweredBy answer (c.identifying ++ callsFor name request.files c.log) := by
  constructor
  · obtain ⟨d, hd⟩ := c.only name
    rw [← hd, c.accountsOf_eq]
    exact trace_storeFiles_iff.2 ⟨d, rfl⟩
  · rw [answeredBy_append]
    constructor
    · intro x hx
      exact hc x (by simp [log, hx])
    · intro x hx
      exact hc x (mem_of_mem_madeFor name hx)

theorem identifying_eq (c : Course request report) (c' : Course request' report')
    (hc : AnsweredBy answer c.log) (hc' : AnsweredBy answer c'.log)
    (hprovider : request'.providerId = request.providerId)
    (hrecord : request'.recordId = request.recordId) : c'.identifying = c.identifying := by
  have hissued := c'.issued
  rw [hprovider, hrecord] at hissued
  have hids : AnsweredBy answer c.identifying := fun x hx => hc x (by simp [log, hx])
  have hids' : AnsweredBy answer c'.identifying := fun x hx => hc' x (by simp [log, hx])
  exact (hissued.unique c.issued hids' hids).1

theorem agreeOn (c : Course request report) (c' : Course request' report')
    (hc : AnsweredBy answer c.log) (hc' : AnsweredBy answer c'.log)
    (honly : request'.only name = request.only name) :
    AgreeOn name request.files request'.files c.log c'.log report report' := by
  have hprovider := congrArg StoreRequest.providerId honly
  have hrecord := congrArg StoreRequest.recordId honly
  obtain ⟨htrace, hanswers⟩ := c.trace_only hc name
  obtain ⟨htrace', hanswers'⟩ := c'.trace_only hc' name
  rw [honly] at htrace'
  obtain ⟨hlog, hvalue⟩ := htrace'.unique htrace hanswers' hanswers
  have hreport := Except.ok.inj hvalue
  constructor
  · have hfilter := congrArg StoreReport.representations hreport
    have hhead := congrArg List.head? hfilter
    rwa [StoreReport.only, StoreReport.only, List.head?_filter, List.head?_filter] at hhead
  · rw [c.identifying_eq c' hc hc' hprovider hrecord] at hlog
    exact List.append_cancel_left hlog
  · exact congrArg StoreReport.skipped hreport

end Course

/-! ## Runs with determined answers -/

section Runs

variable {σ : Type} {peer : Peer Request Reply σ} {answer : (q : Request) → Reply q}

theorem issued_again (hpeer : ∀ s q, (peer.reply s q).1 = answer q) {key : RecordKey}
    {cloudId : CloudId} {s : σ} (h : ((issueCloudId key).run peer s).value = .ok cloudId)
    (t : σ) : ((issueCloudId key).run peer t).value = .ok cloudId := by
  rw [← h]
  exact ((trace_run peer _ t).unique (trace_run peer _ s) (answeredBy_run hpeer _ t)
    (answeredBy_run hpeer _ s)).2

theorem run_only [Media.Guess] (hpeer : ∀ s q, (peer.reply s q).1 = answer q) {s : σ}
    {request : StoreRequest} {report : StoreReport} (c : Course request report)
    (hlog : c.log = ((storeFiles request).run peer s).exchanges) (t : σ) (name : String) :
    ((storeFiles (request.only name)).run peer t).exchanges =
        c.identifying ++ callsFor name request.files c.log ∧
      ((storeFiles (request.only name)).run peer t).value =
        .ok (report.only name (skippedOf name (accountsOf request.files c.log))) := by
  have hc := answeredBy_run hpeer (storeFiles request) s
  rw [← hlog] at hc
  obtain ⟨htrace, hanswers⟩ := c.trace_only hc name
  exact (trace_run peer _ t).unique htrace (answeredBy_run hpeer _ t) hanswers

/-- Stored with other files, a record agrees on every representation that keeps its own. -/
theorem agreeOn_of_files [Media.Guess] (hpeer : ∀ s q, (peer.reply s q).1 = answer q) {s : σ}
    {request : StoreRequest} {cloudId : CloudId} {report : StoreReport}
    (h : ((issueCloudId ⟨request.providerId, request.recordId⟩).run peer s).value = .ok cloudId)
    (c : Course request report) (hlog : c.log = ((storeFiles request).run peer s).exchanges)
    (t : σ) (files : List FileEntry) :
    ∃ report', ((storeFiles { request with files := files }).run peer t).value = .ok report' ∧
      ∀ name, { request with files := files }.only name = request.only name →
        AgreeOn name request.files files c.log
          ((storeFiles { request with files := files }).run peer t).exchanges report report' := by
  obtain ⟨report', hvalue', -, c', hlog', -⟩ :=
    @course_of_issued _ σ peer t { request with files := files } cloudId (issued_again hpeer h t)
  refine ⟨report', hvalue', fun name honly => ?_⟩
  have hc := answeredBy_run hpeer (storeFiles request) s
  have hc' := answeredBy_run hpeer (storeFiles { request with files := files }) t
  rw [← hlog] at hc
  rw [← hlog'] at hc' ⊢
  exact c.agreeOn c' hc hc' honly

end Runs

/-- The representations of a record, stored from one state of the repository, do not depend on each
other when it is stored again from another. -/
structure Independent [Media.Guess] {σ : Type} (peer : Peer Request Reply σ) (s t : σ)
    (request : StoreRequest) (report : StoreReport) : Prop where
  /-- The skipped files are read from the log, so that each belongs to its representation. -/
  skipped_eq : report.skipped =
    ((accountsOf request.files ((storeFiles request).run peer s).exchanges).filter
      (·.isSkipped)).map (·.entry.file)
  /-- With the files of one representation only, the report is the one on this representation. -/
  alone_value : ∀ name, ((storeFiles (request.only name)).run peer t).value =
    .ok (report.only name
      (skippedOf name (accountsOf request.files ((storeFiles request).run peer s).exchanges)))
  /-- Behind the identifier, the calls are then those that were made for it. -/
  alone_calls : ∀ name, ((storeFiles (request.only name)).run peer t).exchanges =
    ((issueCloudId ⟨request.providerId, request.recordId⟩).run peer s).exchanges ++
      callsFor name request.files ((storeFiles request).run peer s).exchanges
  /-- Other files, or the same in another order, change nothing for the representations that keep
  their own files in order. -/
  rearranged : ∀ files : List FileEntry,
    ∃ report', ((storeFiles { request with files := files }).run peer t).value = .ok report' ∧
      ∀ name, files.filter (·.representation? = some name) =
          request.files.filter (·.representation? = some name) →
        AgreeOn name request.files files ((storeFiles request).run peer s).exchanges
          ((storeFiles { request with files := files }).run peer t).exchanges report report'

/-- Where each request has one answer, the representations of a record do not interfere. -/
theorem storeFiles_keeps_representations_apart [Media.Guess] {σ : Type}
    (peer : Peer Request Reply σ)
    (answer : (q : Request) → Reply q) (s t : σ) (request : StoreRequest) (cloudId : CloudId)
    (hpeer : ∀ s q, (peer.reply s q).1 = answer q)
    (h : ((issueCloudId ⟨request.providerId, request.recordId⟩).run peer s).value = .ok cloudId) :
    ∃ report, ((storeFiles request).run peer s).value = .ok report ∧
      Independent peer s t request report := by
  obtain ⟨report, hvalue, -, c, hlog, hissued⟩ := course_of_issued h
  refine ⟨report, hvalue, ?_⟩
  constructor
  · rw [← hlog, c.accountsOf_eq]
    exact c.skipped_accounts
  · intro name
    rw [← hlog]
    exact (run_only hpeer c hlog t name).2
  · intro name
    rw [← hlog, ← hissued]
    exact (run_only hpeer c hlog t name).1
  · intro files
    obtain ⟨report', hvalue', hagree⟩ := agreeOn_of_files hpeer h c hlog t files
    refine ⟨report', hvalue', ?_⟩
    intro name hfiles
    rw [← hlog]
    exact hagree name (by simp only [StoreRequest.only, hfiles])

theorem storeFiles_keeps_sample_apart :
    (∀ s q, (samplePeer.reply s q).1 = sampleAnswer q) ∧
      ((issueCloudId ⟨sampleRequest.providerId, sampleRequest.recordId⟩).run
        samplePeer ()).value = .ok sampleReport.cloudId ∧
      ∃ report, ((storeFiles sampleRequest).run samplePeer ()).value = .ok report ∧
        Independent samplePeer () () sampleRequest report :=
  ⟨fun _ _ => rfl, rfl, storeFiles_keeps_representations_apart samplePeer sampleAnswer () ()
    sampleRequest sampleReport.cloudId (fun _ _ => rfl) rfl⟩

end Store

end Ingest
