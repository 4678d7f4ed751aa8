import Ingest.Proofs.Dialogue.Trace
import Ingest.Proofs.Store.Progress
/-!
# The uploads of a record

The loop over the files of a record, as the steps it is made of: each file is left out, or has its
representation created or refused, or is sent.  The traces of the loop are exactly the sequences of
these steps (`trace_uploadAll_iff`), so what follows is proved by induction over steps.  The progress
after the loop is then read from the calls and the accounts of the files alone.
-/

namespace Ingest.Store

open Repository Dialogue

/-! ## Steps -/

/-- The uploads of files from one progress to another: the files with their own uploads, and the
calls that are made.  A file whose representation has been created stays to be sent. -/
inductive Uploads [Media.Guess] (providerId cloudId : String) :
    Progress → List Account → List Call → Progress → Prop where
  | nil (p : Progress) : Uploads providerId cloudId p [] [] p
  | unnamed {p p' : Progress} {e : FileEntry} {as : List Account} {xs : List Call} :
      e.representation? = none →
      Uploads providerId cloudId (p.skip e.file) as xs p' →
      Uploads providerId cloudId p (⟨e, none⟩ :: as) xs p'
  | drop {p p' : Progress} {e : FileEntry} {name : String} {as : List Account}
      {xs : List Call} :
      e.representation? = some name → name ∈ p.refused →
      Uploads providerId cloudId (p.skip e.file) as xs p' →
      Uploads providerId cloudId p (⟨e, none⟩ :: as) xs p'
  | refuse {p p' : Progress} {e : FileEntry} {name : String} {as : List Account}
      {xs : List Call} (cause : RemoteError) :
      e.representation? = some name → name ∉ p.refused → name ∉ p.names →
      Uploads providerId cloudId ((p.refuse name).skip e.file) as xs p' →
      Uploads providerId cloudId p (⟨e, none⟩ :: as)
        (⟨.createRepresentation cloudId name providerId, .error cause⟩ :: xs) p'
  | create {p p' : Progress} {a : Account} {name : String} {as : List Account}
      {xs : List Call} (url : String) :
      a.entry.representation? = some name → name ∉ p.refused → name ∉ p.names →
      Uploads providerId cloudId (p.create name url) (a :: as) xs p' →
      Uploads providerId cloudId p (a :: as)
        (⟨.createRepresentation cloudId name providerId, .ok url⟩ :: xs) p'
  | send {p p' : Progress} {e : FileEntry} {name url : String} {as : List Account}
      {xs : List Call} (reply : Except RemoteError String) :
      e.representation? = some name → name ∉ p.refused → p.versionUrl? name = some url →
      Uploads providerId cloudId (p.receive e name reply) as xs p' →
      Uploads providerId cloudId p (⟨e, some ⟨url, e.upload, reply⟩⟩ :: as)
        (⟨.addFile url e.upload, reply⟩ :: xs) p'

section Loop

variable [Media.Guess] {providerId cloudId : String} {p : Progress} {e : FileEntry}
  {es : List FileEntry} {name : String}

theorem uploadAll_unnamed (he : e.representation? = none) :
    uploadAll providerId cloudId p (e :: es) =
      uploadAll providerId cloudId (p.skip e.file) es := by
  simp [uploadAll, uploadEntry, he]

theorem uploadAll_dropped (he : e.representation? = some name) (hr : name ∈ p.refused) :
    uploadAll providerId cloudId p (e :: es) =
      uploadAll providerId cloudId (p.skip e.file) es := by
  simp [uploadAll, uploadEntry, he, hr]

theorem uploadAll_send {url : String} (he : e.representation? = some name)
    (hr : name ∉ p.refused) (hurl : p.versionUrl? name = some url) :
    uploadAll providerId cloudId p (e :: es) =
      .ask (.addFile url e.upload) fun reply =>
        uploadAll providerId cloudId (p.receive e name reply) es := by
  simp only [uploadAll, uploadEntry, he, hr, hurl, uploadInto, if_false, ask_bind]
  congr 1
  funext reply
  cases reply <;> rfl

theorem uploadAll_create (he : e.representation? = some name) (hr : name ∉ p.refused)
    (hn : name ∉ p.names) :
    uploadAll providerId cloudId p (e :: es) =
      .ask (.createRepresentation cloudId name providerId) fun
        | .ok url => uploadAll providerId cloudId (p.create name url) (e :: es)
        | .error _ => uploadAll providerId cloudId ((p.refuse name).skip e.file) es := by
  have hnone := Progress.versionUrl?_eq_none_iff.2 hn
  simp only [uploadAll, uploadEntry, he, hr, hnone, if_false, ask_bind]
  refine congrArg (Dialogue.ask _) (funext fun (reply : Except RemoteError String) => ?_)
  cases reply with
  | error _ => rfl
  | ok url =>
      have hurl : (p.create name url).versionUrl? name = some url :=
        Progress.versionUrl?_create hn
      simp [hr, hurl]

/-- The traces of the upload loop are the sequences of its steps. -/
theorem trace_uploadAll_iff {xs : List Call} {p' : Progress} :
    (uploadAll providerId cloudId p es).Trace xs p' ↔
      ∃ as, as.map (·.entry) = es ∧ Uploads providerId cloudId p as xs p' := by
  constructor
  · intro h
    induction es generalizing p xs with
    | nil =>
        obtain ⟨rfl, rfl⟩ := trace_done_iff.1 h
        exact ⟨[], rfl, .nil _⟩
    | cons e es ih =>
        cases he : e.representation? with
        | none =>
            rw [uploadAll_unnamed he] at h
            obtain ⟨as, rfl, has⟩ := ih h
            exact ⟨⟨e, none⟩ :: as, rfl, .unnamed he has⟩
        | some name =>
            -- A file that can be sent; its representation is there, perhaps since just now.
            have hsend : ∀ {q : Progress} {url : String} {ys : List Call}, name ∉ q.refused →
                q.versionUrl? name = some url →
                (uploadAll providerId cloudId q (e :: es)).Trace ys p' →
                ∃ as, as.map (·.entry) = e :: es ∧ Uploads providerId cloudId q as ys p' := by
              intro q url ys hr hurl h
              rw [uploadAll_send he hr hurl] at h
              obtain ⟨reply, zs, rfl, hrest⟩ := trace_ask_iff.1 h
              obtain ⟨as, rfl, has⟩ := ih hrest
              exact ⟨⟨e, some ⟨url, e.upload, reply⟩⟩ :: as, rfl, .send reply he hr hurl has⟩
            by_cases hr : name ∈ p.refused
            · rw [uploadAll_dropped he hr] at h
              obtain ⟨as, rfl, has⟩ := ih h
              exact ⟨⟨e, none⟩ :: as, rfl, .drop he hr has⟩
            · cases hurl : p.versionUrl? name with
              | some url => exact hsend hr hurl h
              | none =>
                  have hn := Progress.versionUrl?_eq_none_iff.1 hurl
                  rw [uploadAll_create he hr hn] at h
                  obtain ⟨reply, ys, rfl, hrest⟩ := trace_ask_iff.1 h
                  cases reply with
                  | error cause =>
                      obtain ⟨as, rfl, has⟩ := ih hrest
                      exact ⟨⟨e, none⟩ :: as, rfl, .refuse cause he hr hn has⟩
                  | ok url =>
                      obtain ⟨as, has, hsteps⟩ :=
                        hsend (q := p.create name url) hr (Progress.versionUrl?_create hn) hrest
                      obtain ⟨a, bs, rfl, ha, -⟩ := List.map_eq_cons_iff.1 has
                      subst ha
                      exact ⟨a :: bs, has, .create url he hr hn hsteps⟩
  · rintro ⟨as, rfl, h⟩
    induction h with
    | nil p => exact .done p
    | unnamed he _ ih =>
        rw [List.map_cons, uploadAll_unnamed he]
        exact ih
    | drop he hr _ ih =>
        rw [List.map_cons, uploadAll_dropped he hr]
        exact ih
    | refuse cause he hr hn _ ih =>
        rw [List.map_cons, uploadAll_create he hr hn]
        exact trace_ask_iff.2 ⟨.error cause, _, rfl, ih⟩
    | create url he hr hn _ ih =>
        rw [List.map_cons, uploadAll_create he hr hn]
        exact trace_ask_iff.2 ⟨.ok url, _, rfl, ih⟩
    | send reply he hr hurl _ ih =>
        rw [List.map_cons, uploadAll_send he hr hurl]
        exact trace_ask_iff.2 ⟨reply, _, rfl, ih⟩

end Loop

/-! ## What the steps amount to -/

namespace Uploads

variable [Media.Guess] {providerId cloudId : String} {p p' : Progress} {as : List Account}
  {xs : List Call}

theorem phase (h : Uploads providerId cloudId p as xs p') : ∀ x ∈ xs, x.phase = .uploading := by
  induction h with
  | nil p => simp
  | unnamed _ _ ih => exact ih
  | drop _ _ _ ih => exact ih
  | refuse cause _ _ _ _ ih => simpa [Call.phase] using ih
  | create url _ _ _ _ ih => simpa [Call.phase] using ih
  | send reply _ _ _ _ ih => simpa [Call.phase] using ih

theorem versions_eq (h : Uploads providerId cloudId p as xs p') :
    p'.versions = p.versions ++ created xs := by
  induction h with
  | nil p => simp
  | unnamed _ _ ih => exact ih
  | drop _ _ _ ih => exact ih
  | refuse cause _ _ _ _ ih => simpa using ih
  | create url _ _ _ _ ih => simpa using ih
  | send reply _ _ _ _ ih => simpa using ih

theorem refused_eq (h : Uploads providerId cloudId p as xs p') :
    p'.refused = p.refused ++ refused xs := by
  induction h with
  | nil p => simp
  | unnamed _ _ ih => exact ih
  | drop _ _ _ ih => exact ih
  | refuse cause _ _ _ _ ih => simpa using ih
  | create url _ _ _ _ ih => simpa using ih
  | send reply _ _ _ _ ih => simpa using ih

theorem uploads_eq (h : Uploads providerId cloudId p as xs p') :
    uploads xs = as.filterMap (·.upload) := by
  induction h with
  | nil p => rfl
  | unnamed _ _ ih => simpa using ih
  | drop _ _ _ ih => simpa using ih
  | refuse cause _ _ _ _ ih => simpa using ih
  | create url _ _ _ _ ih => simpa using ih
  | send reply _ _ _ _ ih => simpa using ih

theorem upload_file (h : Uploads providerId cloudId p as xs p') :
    ∀ a ∈ as, ∀ u ∈ a.upload, u.file = a.entry.upload := by
  induction h with
  | nil p => simp
  | unnamed _ _ ih => simpa using ih
  | drop _ _ _ ih => simpa using ih
  | refuse cause _ _ _ _ ih => simpa using ih
  | create url _ _ _ _ ih => exact ih
  | send reply _ _ _ _ ih => simpa using ih

theorem skipped_eq (h : Uploads providerId cloudId p as xs p') :
    p'.skipped = p.skipped ++ (as.filter (·.isSkipped)).map (·.entry.file) := by
  induction h with
  | nil p => simp
  | unnamed _ _ ih => simpa [Progress.skip, Account.isSkipped, Account.location?] using ih
  | drop _ _ _ ih => simpa [Progress.skip, Account.isSkipped, Account.location?] using ih
  | refuse cause _ _ _ _ ih =>
      simpa [Progress.skip, Progress.refuse, Account.isSkipped, Account.location?] using ih
  | create url _ _ _ _ ih => exact ih
  | send reply _ _ _ _ ih =>
      cases reply with
      | ok location =>
          simpa [Progress.receive, Progress.addFile, Account.isSkipped, Account.location?,
            Except.toOption] using ih
      | error _ =>
          simpa [Progress.receive, Progress.skip, Account.isSkipped, Account.location?,
            Except.toOption] using ih

/-! ### Names -/

theorem consistent (h : Uploads providerId cloudId p as xs p') (hp : p.Consistent) :
    p'.Consistent := by
  induction h with
  | nil p => exact hp
  | unnamed _ _ ih => exact ih (hp.skip _)
  | drop _ _ _ ih => exact ih (hp.skip _)
  | refuse cause _ hr hn _ ih => exact ih ((hp.refuse hr hn).skip _)
  | create url _ hr hn _ ih => exact ih (hp.create hr hn url)
  | send reply _ _ _ _ ih => exact ih (hp.receive _ reply)

theorem names_eq (h : Uploads providerId cloudId p as xs p') :
    p'.names = p.names ++ (created xs).map (·.name) := by
  rw [Progress.names_eq_map_versions, h.versions_eq, List.map_append,
    ← Progress.names_eq_map_versions]

theorem isSome_upload (h : Uploads providerId cloudId p as xs p') (hp : p.Consistent) :
    ∀ a ∈ as, a.upload.isSome = isTried p'.refused a.entry := by
  induction h with
  | nil p => simp
  | unnamed he _ ih =>
      rw [List.forall_mem_cons]
      exact ⟨by simp [isTried, he], ih (hp.skip _)⟩
  | @drop p p' e name as xs he hr hrest ih =>
      rw [List.forall_mem_cons]
      have hmem : name ∈ p'.refused := by simp [hrest.refused_eq, hr]
      exact ⟨by simp [isTried, he, hmem], ih (hp.skip _)⟩
  | @refuse p p' e name as xs cause he hr hn hrest ih =>
      rw [List.forall_mem_cons]
      have hmem : name ∈ p'.refused := by simp [hrest.refused_eq]
      exact ⟨by simp [isTried, he, hmem], ih ((hp.refuse hr hn).skip _)⟩
  | create url _ hr hn _ ih => exact ih (hp.create hr hn url)
  | @send p p' e name url as xs reply he _ hurl hrest ih =>
      rw [List.forall_mem_cons]
      -- A name with a version keeps it, so it is not refused later either.
      have hmem : name ∈ p'.names := by
        simp [hrest.names_eq, Progress.mem_names_of_versionUrl? hurl]
      have hfree := (hrest.consistent (hp.receive e reply)).disjoint name hmem
      exact ⟨by simp [isTried, he, hfree], ih (hp.receive e reply)⟩

theorem tried_eq (h : Uploads providerId cloudId p as xs p') (hp : p.Consistent) :
    (as.map (·.entry)).filter (isTried p'.refused) =
      (as.filter (·.upload.isSome)).map (·.entry) := by
  rw [List.filter_map]
  congr 1
  apply List.filter_congr
  intro a ha
  exact (h.isSome_upload hp a ha).symm

theorem sent_eq (h : Uploads providerId cloudId p as xs p') (hp : p.Consistent) :
    (Store.uploads xs).map (·.file) =
      ((as.map (·.entry)).filter (isTried p'.refused)).map (·.upload) := by
  have hown := h.upload_file
  rw [h.uploads_eq, h.tried_eq hp]
  clear h
  induction as with
  | nil => rfl
  | cons a as ih =>
      rw [List.forall_mem_cons] at hown
      have hrest := ih hown.2
      obtain ⟨e, _ | u⟩ := a
      · simpa using hrest
      · have hfile : u.file = e.upload := hown.1 u rfl
        simpa [hfile] using hrest

theorem fresh (h : Uploads providerId cloudId p as xs p') : ∀ v ∈ created xs, v.name ∉ p.names := by
  induction h with
  | nil p => simp
  | unnamed _ _ ih => exact ih
  | drop _ _ _ ih => exact ih
  | refuse cause _ _ _ _ ih => simpa using ih
  | create url _ _ hn _ ih =>
      simp only [view_cons, Call.created?, Option.toList_some, List.cons_append, List.nil_append,
        List.forall_mem_cons]
      refine ⟨hn, fun v hv hmem => ih v hv ?_⟩
      simp [hmem]
  | send reply _ _ _ _ ih => simpa using ih

/-- The representations after the loop: those before it and the created ones, each with the files
that it has received. -/
theorem representations_eq (h : Uploads providerId cloudId p as xs p') :
    p'.representations =
      (p.representations ++ (created xs).map Version.empty).map (addFiles as) := by
  induction h with
  | nil p => simp
  | unnamed _ _ ih =>
      rw [addFiles_cons, addFiles_singleton_of_skipped rfl]
      exact ih
  | drop _ _ _ ih =>
      rw [addFiles_cons, addFiles_singleton_of_skipped rfl]
      exact ih
  | refuse cause _ _ _ _ ih =>
      rw [addFiles_cons, addFiles_singleton_of_skipped rfl]
      simpa using ih
  | create url _ _ _ _ ih =>
      rw [ih]
      simp [Progress.create, Version.empty]
  | @send p p' e name url as xs reply he _ hurl hrest ih =>
      rw [addFiles_cons]
      cases reply with
      | error cause =>
          rw [addFiles_singleton_of_skipped rfl]
          simpa using ih
      | ok location =>
          -- The representations still to come have other names and stay empty here.
          have hlater : ((created xs).map Version.empty).map
              (addFiles [⟨e, some ⟨url, e.upload, .ok location⟩⟩]) =
                (created xs).map Version.empty := by
            rw [List.map_map]
            apply List.map_congr_left
            intro v hv
            have hne : v.name ≠ name := by
              rintro rfl
              exact hrest.fresh v hv (by simpa using Progress.mem_names_of_versionUrl? hurl)
            apply addFiles_singleton_of_ne
            simp [Account.isFor, he, Version.empty, Ne.symm hne]
          have hnow := addFile_representations p he url location
          simp only [view_cons, Call.created?, Option.toList_none, List.nil_append]
          rw [ih, ← List.map_map, Progress.receive_ok]
          congr 1
          rw [List.map_append, hlater, hnow]

/-- The names that are asked for are those of the files, each once and in the order of their first
appearance, without the ones that are settled already. -/
theorem asked_eq (h : Uploads providerId cloudId p as xs p') :
    asked xs = ((as.filterMap (·.entry.representation?)).filter p.isNew).eraseDups := by
  induction h with
  | nil p => rfl
  | unnamed he _ ih => simpa [he] using ih
  | drop he hr _ ih => simpa [he, hr, Progress.isNew] using ih
  | @refuse p p' e name as xs cause he hr hn _ ih =>
      have hnew : p.isNew name = true := by simp [Progress.isNew, hr, hn]
      simp [he, hnew, ih, Progress.isNew_refuse, List.eraseDups_cons, List.filter_filter]
  | @create p p' a name as xs url he hr hn _ ih =>
      have hnew : p.isNew name = true := by simp [Progress.isNew, hr, hn]
      simp [he, hnew, ih, Progress.isNew_create, List.eraseDups_cons, List.filter_filter]
  | @send p p' e name url as xs reply he hr hurl _ ih =>
      have hnew : p.isNew name = false := by
        simp [Progress.isNew, Progress.mem_names_of_versionUrl? hurl]
      simpa [he, hnew] using ih

theorem accounts_eq (h : Uploads providerId cloudId p as xs p') (hp : p.Consistent) :
    accounts p'.refused (as.map (·.entry)) (uploads xs) = as := by
  rw [h.uploads_eq]
  exact Store.accounts_eq (h.isSome_upload hp)

end Uploads

end Ingest.Store
