import Ingest.Proofs.Store.Attribution
/-!
# One representation of a record

The course of a record, seen by one of its representations, is the course of a record that has the
files of this representation only.  The steps of the uploads and of the closing are projected one by
one; the calls that remain are those that are made for the representation.
-/

namespace Ingest

def StoreRequest.only (request : StoreRequest) (name : String) : StoreRequest :=
  { request with files := request.files.filter (·.representation? = some name) }

def StoreReport.only (report : StoreReport) (name : String) (skipped : List Path) : StoreReport :=
  ⟨report.cloudId, report.representations.filter (·.name = name), skipped⟩

namespace Store

open Repository

/-! ## Progress of one representation -/

namespace Progress

def only (p : Progress) (name : String) (skipped : List Path) : Progress :=
  ⟨p.representations.filter (·.name = name), p.refused.filter (· = name), skipped⟩

variable (p : Progress) {name other : String} (skipped : List Path)

theorem only_start : start.only name [] = start := rfl

@[simp] theorem only_skip (file : Path) : (p.skip file).only name skipped = p.only name skipped :=
  rfl

theorem refuse_only :
    (p.only name skipped).refuse name = (p.refuse name).only name skipped := by
  simp [only, refuse]

theorem only_refuse_of_ne (h : other ≠ name) :
    (p.refuse other).only name skipped = p.only name skipped := by
  simp [only, refuse, h]

theorem create_only (url : String) :
    (p.only name skipped).create name url = (p.create name url).only name skipped := by
  simp [only, create]

theorem only_create_of_ne (h : other ≠ name) (url : String) :
    (p.create other url).only name skipped = p.only name skipped := by
  simp [only, create, h]

theorem name_addFile (r : RepresentationReport) (name : String) (file : UploadedFile) :
    (if r.name = name then { r with files := r.files ++ [file] } else r).name = r.name := by
  by_cases h : r.name = name
  · rw [if_pos h]
  · rw [if_neg h]

theorem addFile_only (file : UploadedFile) :
    (p.only name skipped).addFile name file = (p.addFile name file).only name skipped := by
  simp only [only, addFile, List.filter_map, Function.comp_def, name_addFile]

theorem only_addFile_of_ne (h : other ≠ name) (file : UploadedFile) :
    (p.addFile other file).only name skipped = p.only name skipped := by
  have hkept : ∀ r ∈ p.representations.filter (·.name = name),
      (if r.name = other then { r with files := r.files ++ [file] } else r) = r := by
    intro r hr
    have hr : r.name = name := by simpa using (List.mem_filter.1 hr).2
    rw [if_neg]
    rw [hr]
    exact Ne.symm h
  simp only [only, addFile, List.filter_map, Function.comp_def, name_addFile]
  rw [List.map_congr_left hkept, List.map_id']

theorem only_receive_of_ne (h : other ≠ name) (e : FileEntry)
    (reply : Except RemoteError String) :
    (p.receive e other reply).only name skipped = p.only name skipped := by
  cases reply with
  | ok location => exact p.only_addFile_of_ne skipped h _
  | error _ => rfl

theorem mem_names_only : name ∈ (p.only name skipped).names ↔ name ∈ p.names := by
  simp [only, names]

theorem mem_refused_only : name ∈ (p.only name skipped).refused ↔ name ∈ p.refused := by
  simp [only]

theorem versionUrl?_only : (p.only name skipped).versionUrl? name = p.versionUrl? name := by
  simp [only, versionUrl?, List.find?_filter]

end Progress

/-! ## Files of one representation -/

section Files

variable {name : String} {e : FileEntry} {a : Account} {as : List Account}

theorem filter_isFor_of_eq (h : a.entry.representation? = some name) :
    (a :: as).filter (·.isFor name) = a :: as.filter (·.isFor name) :=
  List.filter_cons_of_pos (by simp [Account.isFor, h])

theorem filter_isFor_of_ne (h : a.entry.representation? ≠ some name) :
    (a :: as).filter (·.isFor name) = as.filter (·.isFor name) :=
  List.filter_cons_of_neg (by simp [Account.isFor, h])

theorem skippedOf_cons (name : String) (a : Account) (as : List Account) :
    skippedOf name (a :: as) = skippedOf name [a] ++ skippedOf name as := by
  rw [← List.singleton_append]
  simp only [skippedOf, List.filter_append, List.map_append]

theorem skippedOf_cons_of_ne (h : a.entry.representation? ≠ some name) :
    skippedOf name (a :: as) = skippedOf name as := by
  rw [skippedOf, filter_isFor_of_ne h]
  rfl

theorem skippedOf_cons_of_lost (h : e.representation? = some name) :
    skippedOf name (⟨e, none⟩ :: as) = e.file :: skippedOf name as := by
  rw [skippedOf, filter_isFor_of_eq h]
  rfl

theorem receive_only [Media.Guess] (h : e.representation? = some name) (p : Progress)
    (skipped : List Path) (url : String) (reply : Except RemoteError String) :
    (p.only name skipped).receive e name reply =
      (p.receive e name reply).only name
        (skipped ++ skippedOf name [⟨e, some ⟨url, e.upload, reply⟩⟩]) := by
  cases reply with
  | ok location =>
      have hnone : skippedOf name [⟨e, some ⟨url, e.upload, .ok location⟩⟩] = [] := by
        rw [skippedOf, filter_isFor_of_eq h]
        rfl
      rw [hnone, List.append_nil]
      exact p.addFile_only skipped _
  | error cause =>
      have hlost : skippedOf name [⟨e, some ⟨url, e.upload, .error cause⟩⟩] = [e.file] := by
        rw [skippedOf, filter_isFor_of_eq h]
        rfl
      rw [hlost]
      rfl

end Files

/-! ## Uploads of one representation -/

namespace Uploads

variable [Media.Guess] {providerId cloudId : String} {p p' : Progress} {as : List Account}
  {xs : List Call}

/-- The steps for one representation are the uploads of its files alone. -/
theorem only (h : Uploads providerId cloudId p as xs p') (name : String) (skipped : List Path) :
    Uploads providerId cloudId (p.only name skipped) (as.filter (·.isFor name))
      (madeFor name (withOwners (as.filterMap (·.sender?)) [] xs))
      (p'.only name (skipped ++ skippedOf name as)) := by
  induction h generalizing skipped with
  | nil p =>
      simpa [skippedOf, withOwners] using Uploads.nil (p.only name skipped)
  | @unnamed p p' e as xs he hrest ih =>
      have hne : e.representation? ≠ some name := by simp [he]
      rw [skippedOf_cons_of_ne hne, filter_isFor_of_ne hne]
      exact ih skipped
  | @drop p p' e other as xs he hr hrest ih =>
      by_cases hname : other = name
      · subst hname
        rw [skippedOf_cons_of_lost he, filter_isFor_of_eq he, List.append_cons]
        exact .drop he ((p.mem_refused_only skipped).2 hr) (ih (skipped ++ [e.file]))
      · have hne : e.representation? ≠ some name := by simp [he, hname]
        rw [skippedOf_cons_of_ne hne, filter_isFor_of_ne hne]
        exact ih skipped
  | @refuse p p' e other as xs cause he hr hn hrest ih =>
      by_cases hname : other = name
      · subst hname
        rw [skippedOf_cons_of_lost he, filter_isFor_of_eq he, List.append_cons]
        have hnext := ih (skipped ++ [e.file])
        rw [Progress.only_skip, ← Progress.refuse_only] at hnext
        have hstep := Uploads.refuse cause he (mt (p.mem_refused_only skipped).1 hr)
          (mt (p.mem_names_only skipped).1 hn) hnext
        simpa [withOwners, madeFor_cons, Account.sender?] using hstep
      · have hne : e.representation? ≠ some name := by simp [he, hname]
        rw [skippedOf_cons_of_ne hne, filter_isFor_of_ne hne]
        have hnext := ih skipped
        rw [Progress.only_skip, p.only_refuse_of_ne skipped hname] at hnext
        simpa [withOwners, madeFor_cons, hname, Account.sender?] using hnext
  | @create p p' a other as xs url he hr hn hrest ih =>
      -- The file itself is still to be sent, so the induction covers it with the rest.
      have hnext := ih skipped
      by_cases hname : other = name
      · subst hname
        rw [← Progress.create_only] at hnext
        rw [filter_isFor_of_eq he] at hnext ⊢
        have hstep := Uploads.create url he (mt (p.mem_refused_only skipped).1 hr)
          (mt (p.mem_names_only skipped).1 hn) hnext
        simpa [withOwners, madeFor_cons] using hstep
      · rw [p.only_create_of_ne skipped hname] at hnext
        simpa [withOwners, madeFor_cons, hname] using hnext
  | @send p p' e other url as xs reply he hr hurl hrest ih =>
      by_cases hname : other = name
      · subst hname
        rw [skippedOf_cons, ← List.append_assoc, filter_isFor_of_eq he]
        have hnext := ih (skipped ++ skippedOf other [⟨e, some ⟨url, e.upload, reply⟩⟩])
        rw [← receive_only he] at hnext
        have hstep := Uploads.send reply he (mt (p.mem_refused_only skipped).1 hr)
          ((p.versionUrl?_only skipped).trans hurl) hnext
        simpa [withOwners, madeFor_cons, Account.sender?, he] using hstep
      · have hne : e.representation? ≠ some name := by simp [he, hname]
        rw [skippedOf_cons_of_ne hne, filter_isFor_of_ne hne]
        have hnext := ih skipped
        rw [p.only_receive_of_ne skipped hname] at hnext
        simpa [withOwners, madeFor_cons, hname, Account.sender?, he] using hnext

end Uploads

/-! ## Closing of one representation -/

section Closing

variable {request : StoreRequest} {cloudId : String} {v : Version} {xs : List Call}

theorem ClosingCalls.only (h : ClosingCalls request cloudId v xs) (name : String) :
    ClosingCalls (request.only name) cloudId v xs := by
  cases h with
  | failed cause => exact .failed cause
  | unassigned outcome hds => exact .unassigned outcome hds
  | assigned outcome reply hds => exact .assigned outcome reply hds

theorem ClosingCalls.withOwners_append (h : ClosingCalls request cloudId v xs)
    (opened : List String) (ys : List Call) :
    withOwners [] (v.name :: opened) (xs ++ ys) =
      xs.map (some v.name, ·) ++ withOwners [] opened ys := by
  cases h <;> rfl

theorem madeFor_map_pair (name owner : String) (xs : List Call) :
    madeFor name (xs.map (some owner, ·)) = if owner = name then xs else [] := by
  by_cases h : owner = name <;> simp [madeFor, List.filter_map, Function.comp_def, h]

theorem Closing.only {rs rs' : List RepresentationReport}
    (h : Closing request cloudId rs xs rs') (name : String) :
    Closing (request.only name) cloudId (rs.filter (·.name = name))
      (madeFor name (withOwners [] (rs.map (·.name)) xs)) (rs'.filter (·.name = name)) := by
  induction h with
  | nil => exact .nil
  | @cons r rs rs' xs ys hr hrest ih =>
      have howners := hr.withOwners_append (rs.map (·.name)) ys
      have hname : (closedBy r xs).name = r.name := rfl
      rw [List.map_cons, show r.name = (Version.ofReport r).name from rfl, howners, madeFor_append,
        madeFor_map_pair]
      by_cases h : r.name = name
      · have hstep := Closing.cons (hr.only name) ih
        simpa [h, hname, Version.ofReport] using hstep
      · simpa [h, hname, Version.ofReport] using ih

end Closing

/-! ## The course of one representation -/

/-- What a course does for one representation is the course of its files alone. -/
theorem Course.only [Media.Guess] {request : StoreRequest} {report : StoreReport}
    (c : Course request report) (name : String) :
    ∃ c' : Course (request.only name) (report.only name (skippedOf name c.accounts)),
      c'.log = c.identifying ++ callsFor name request.files c.log := by
  have hfiles : (c.accounts.filter (·.isFor name)).map (·.entry) = (request.only name).files := by
    rw [StoreRequest.only, ← c.files_eq, List.filter_map]
    rfl
  have huploads := c.uploads.only name []
  rw [Progress.only_start, List.nil_append] at huploads
  refine ⟨⟨c.identifying, _, _, _, _, c.issued, hfiles, huploads, c.closes.only name, rfl⟩, ?_⟩
  rw [c.callsFor_eq]
  exact List.append_assoc ..

end Store

end Ingest
