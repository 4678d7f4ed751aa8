import Ingest.Proofs.Store.Course
/-!
# The calls of a representation

Each call of a record is made for one representation or for the record as a whole.  Creations and
assignments say so themselves; an upload is made for the representation of its file, and the persist
requests follow the order in which the representations were created.
-/

namespace Ingest.Store

open Repository

def Account.sender? (a : Account) : Option String :=
  a.upload.bind fun _ => a.entry.representation?

/-- Each call with the representation it is made for.  Creations and assignments name it; uploads
belong in order to the `senders`, and persist requests to the representations in `opened`. -/
def withOwners : List String → List String → List Call → List (Option String × Call)
  | _, _, [] => []
  | senders, opened, x :: xs =>
    match x.request with
    | .createRepresentation _ name _ => (some name, x) :: withOwners senders opened xs
    | .addFile .. => (senders.head?, x) :: withOwners senders.tail opened xs
    | .persist _ => (opened.head?, x) :: withOwners senders opened.tail xs
    | .assign _ _ assignment =>
      (some assignment.representation, x) :: withOwners senders opened xs
    | _ => (none, x) :: withOwners senders opened xs

def madeFor (name : String) (xs : List (Option String × Call)) : List Call :=
  (xs.filter (·.1 = some name)).map (·.2)

/-- The calls of a run that are made for a representation: its creation, the uploads of its files,
and the requests that close it. -/
def callsFor (name : String) (files : List FileEntry) (log : List Call) : List Call :=
  madeFor name
    (withOwners ((accountsOf files log).filterMap (·.sender?)) ((created log).map (·.name)) log)

/-! ## Attribution of a log -/

section Attribution

variable (name : String)

@[simp] theorem madeFor_nil : madeFor name [] = [] := rfl

theorem madeFor_cons (owner : Option String) (x : Call) (xs : List (Option String × Call)) :
    madeFor name ((owner, x) :: xs) =
      if owner = some name then x :: madeFor name xs else madeFor name xs := by
  by_cases h : owner = some name <;> simp [madeFor, h]

@[simp] theorem madeFor_append (xs ys : List (Option String × Call)) :
    madeFor name (xs ++ ys) = madeFor name xs ++ madeFor name ys := by
  simp [madeFor]

/-- A log is attributed part by part, when each part comes with as many senders and opened
representations as it has uploads and persist requests. -/
theorem withOwners_append {senders opened : List String} {xs : List Call}
    (hsenders : senders.length = (uploads xs).length)
    (hopened : opened.length = (persists xs).length)
    (senders' opened' : List String) (ys : List Call) :
    withOwners (senders ++ senders') (opened ++ opened') (xs ++ ys) =
      withOwners senders opened xs ++ withOwners senders' opened' ys := by
  induction xs generalizing senders opened with
  | nil =>
      have hs : senders = [] := List.length_eq_zero_iff.1 hsenders
      have ho : opened = [] := List.length_eq_zero_iff.1 hopened
      simp [hs, ho, withOwners]
  | cons x xs ih =>
      obtain ⟨q, r⟩ := x
      cases q with
      | addFile url file =>
          obtain _ | ⟨sender, senders⟩ := senders
          · simp at hsenders
          · have hs : senders.length = (uploads xs).length := by simpa using hsenders
            have ho : opened.length = (persists xs).length := by simpa using hopened
            simpa [withOwners] using ih hs ho
      | persist url =>
          obtain _ | ⟨name, opened⟩ := opened
          · simp at hopened
          · have hs : senders.length = (uploads xs).length := by simpa using hsenders
            have ho : opened.length = (persists xs).length := by simpa using hopened
            simpa [withOwners] using ih hs ho
      | createProvider | createDataSet | createCloudId | getCloudId | createRepresentation |
          assign =>
          have hs : senders.length = (uploads xs).length := by simpa using hsenders
          have ho : opened.length = (persists xs).length := by simpa using hopened
          simpa [withOwners] using ih hs ho

theorem map_snd_withOwners (senders opened : List String) (xs : List Call) :
    (withOwners senders opened xs).map (·.2) = xs := by
  induction xs generalizing senders opened with
  | nil => rfl
  | cons x xs ih =>
      obtain ⟨q, r⟩ := x
      cases q <;> simp [withOwners, ih]

theorem mem_of_mem_madeFor {senders opened : List String} {xs : List Call} {x : Call}
    (h : x ∈ madeFor name (withOwners senders opened xs)) : x ∈ xs := by
  obtain ⟨pair, hpair, rfl⟩ := List.mem_map.1 h
  have hmem := List.mem_map_of_mem (f := (·.2)) (List.mem_filter.1 hpair).1
  rwa [map_snd_withOwners] at hmem

theorem madeFor_identifying {xs : List Call} (h : ∀ x ∈ xs, x.phase = .identifying) :
    madeFor name (withOwners [] [] xs) = [] := by
  induction xs with
  | nil => rfl
  | cons x xs ih =>
      rw [List.forall_mem_cons] at h
      obtain ⟨q, r⟩ := x
      cases q with
      | createCloudId | getCloudId => simpa [withOwners, madeFor_cons] using ih h.2
      | createProvider | createDataSet | createRepresentation | addFile | persist | assign =>
          simp [Call.phase] at h

end Attribution

/-! ## Attribution of a course -/

theorem Uploads.length_senders [Media.Guess] {providerId cloudId : String} {p p' : Progress}
    {as : List Account} {xs : List Call} (h : Uploads providerId cloudId p as xs p') :
    (as.filterMap (·.sender?)).length = (Store.uploads xs).length := by
  induction h with
  | nil p => rfl
  | unnamed _ _ ih => simpa [Account.sender?] using ih
  | drop _ _ _ ih => simpa [Account.sender?] using ih
  | refuse cause _ _ _ _ ih => simpa [Account.sender?] using ih
  | create url _ _ _ _ ih => simpa using ih
  | send reply he _ _ _ ih => simpa [Account.sender?, he] using ih

/-- The calls for a representation are those of the uploading phase, attributed by the files, and
those of the closing phase, attributed by the order of creation. -/
theorem Course.callsFor_eq [Media.Guess] {request : StoreRequest} {report : StoreReport}
    (c : Course request report) (name : String) :
    callsFor name request.files c.log =
      madeFor name (withOwners (c.accounts.filterMap (·.sender?)) [] c.uploading) ++
        madeFor name (withOwners [] c.progress.names c.closing) := by
  have hids : Store.uploads c.identifying = [] :=
    Views.uploads.showsIn.view_eq_nil c.identifying_phase (by decide)
  have hids' : persists c.identifying = [] :=
    Views.persists.showsIn.view_eq_nil c.identifying_phase (by decide)
  have hus : persists c.uploading = [] :=
    Views.persists.showsIn.view_eq_nil c.uploading_phase (by decide)
  have hfirst : withOwners (c.accounts.filterMap (·.sender?)) c.progress.names
      (c.identifying ++ (c.uploading ++ c.closing)) =
        withOwners [] [] c.identifying ++ withOwners (c.accounts.filterMap (·.sender?))
          c.progress.names (c.uploading ++ c.closing) :=
    @withOwners_append [] [] c.identifying (by simp [hids]) (by simp [hids']) _ _ _
  have hsecond := @withOwners_append _ [] _ c.uploads.length_senders (by simp [hus])
    [] c.progress.names c.closing
  rw [List.append_nil, List.nil_append] at hsecond
  rw [callsFor, c.accountsOf_eq, c.created_eq, ← Progress.names_eq_map_versions, log,
    List.append_assoc, hfirst, hsecond, madeFor_append, madeFor_append,
    madeFor_identifying name c.identifying_phase, List.nil_append]

end Ingest.Store
