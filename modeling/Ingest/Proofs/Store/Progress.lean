import Ingest.Proofs.Store.Log
/-!
# Progress of a record

How far the uploads of a record are, seen through what later calls depend on: the names and versions
of its representations, the names that were refused, and the files each representation has received.
Every operation on progress has its equation for each of these, so no later proof opens it.
-/

namespace Ingest.Store

/-! ## Names and versions -/

namespace Progress

variable (p : Progress) (e : FileEntry) (name url : String)

def names : List String := p.representations.map (·.name)

def versions : List Version := p.representations.map Version.ofReport

def isNew : Bool := name ∉ p.names ∧ name ∉ p.refused

def receive : Except RemoteError String → Progress
  | .ok location => p.addFile name ⟨e.fileName, location⟩
  | .error _ => p.skip e.file

@[simp] theorem receive_ok (location : String) :
    p.receive e name (.ok location) = p.addFile name ⟨e.fileName, location⟩ := rfl

@[simp] theorem receive_error (cause : RemoteError) :
    p.receive e name (.error cause) = p.skip e.file := rfl

@[simp] theorem representations_skip (file : Path) :
    (p.skip file).representations = p.representations := rfl

@[simp] theorem representations_refuse :
    (p.refuse name).representations = p.representations := rfl

@[simp] theorem names_start : start.names = [] := rfl

@[simp] theorem refused_start : start.refused = [] := rfl

@[simp] theorem names_skip (file : Path) : (p.skip file).names = p.names := rfl

@[simp] theorem refused_skip (file : Path) : (p.skip file).refused = p.refused := rfl

@[simp] theorem versions_skip (file : Path) : (p.skip file).versions = p.versions := rfl

@[simp] theorem versions_refuse : (p.refuse name).versions = p.versions := rfl

@[simp] theorem names_refuse : (p.refuse name).names = p.names := rfl

@[simp] theorem refused_refuse : (p.refuse name).refused = p.refused ++ [name] := rfl

@[simp] theorem names_create : (p.create name url).names = p.names ++ [name] := by
  simp [names, create]

@[simp] theorem refused_create : (p.create name url).refused = p.refused := rfl

@[simp] theorem versions_create :
    (p.create name url).versions = p.versions ++ [⟨name, url⟩] := by
  simp [versions, create, Version.ofReport]

@[simp] theorem versions_addFile (file : UploadedFile) :
    (p.addFile name file).versions = p.versions := by
  simp only [versions, addFile, List.map_map]
  apply List.map_congr_left
  intro r _
  by_cases h : r.name = name <;> simp [h, Version.ofReport]

theorem names_eq_map_versions : p.names = p.versions.map (·.name) := by
  simp [names, versions, Version.ofReport]

@[simp] theorem names_addFile (file : UploadedFile) :
    (p.addFile name file).names = p.names := by
  rw [names_eq_map_versions, versions_addFile, ← names_eq_map_versions]

@[simp] theorem versions_receive (reply : Except RemoteError String) :
    (p.receive e name reply).versions = p.versions := by
  cases reply with
  | ok location => simp [receive]
  | error _ => rfl

@[simp] theorem names_receive (reply : Except RemoteError String) :
    (p.receive e name reply).names = p.names := by
  cases reply with
  | ok location => simp
  | error _ => rfl

@[simp] theorem refused_receive (reply : Except RemoteError String) :
    (p.receive e name reply).refused = p.refused := by
  cases reply <;> rfl

@[simp] theorem isNew_start : start.isNew name = true := by simp [isNew]

@[simp] theorem isNew_skip (file : Path) : (p.skip file).isNew = p.isNew := rfl

theorem isNew_refuse :
    (p.refuse name).isNew = fun other => !other == name && p.isNew other := by
  funext other
  by_cases h : other = name <;> simp [isNew, h]

theorem isNew_create :
    (p.create name url).isNew = fun other => !other == name && p.isNew other := by
  funext other
  by_cases h : other = name <;> simp [isNew, h]

@[simp] theorem isNew_receive (reply : Except RemoteError String) :
    (p.receive e name reply).isNew = p.isNew := by
  funext other
  simp [isNew]

variable {p name url}

theorem versionUrl?_eq_none_iff : p.versionUrl? name = none ↔ name ∉ p.names := by
  simp [versionUrl?, names]

theorem versionUrl?_eq_find? :
    p.versionUrl? name = (p.versions.find? (·.name = name)).map (·.url) := by
  simp only [versionUrl?, versions, List.find?_map, Option.map_map]
  rfl

theorem mem_versions_of_versionUrl? (h : p.versionUrl? name = some url) :
    ⟨name, url⟩ ∈ p.versions := by
  obtain ⟨r, hr, rfl⟩ := Option.map_eq_some_iff.1 h
  have hname : r.name = name := by simpa using List.find?_some hr
  subst hname
  exact List.mem_map_of_mem (List.mem_of_find?_eq_some hr)

theorem mem_names_of_versionUrl? (h : p.versionUrl? name = some url) : name ∈ p.names := by
  rw [names_eq_map_versions]
  exact List.mem_map_of_mem (mem_versions_of_versionUrl? h)

theorem versionUrl?_create (h : name ∉ p.names) :
    (p.create name url).versionUrl? name = some url := by
  have hnone : p.representations.find? (·.name = name) = none := by
    simpa [versionUrl?] using versionUrl?_eq_none_iff.2 h
  simp [versionUrl?, create, List.find?_append, hnone]

end Progress

/-! ## Received files -/

def Version.empty (v : Version) : RepresentationReport := ⟨v.name, v.url, [], false, false⟩

def addFiles (as : List Account) (r : RepresentationReport) : RepresentationReport :=
  { r with files := r.files ++ filesOf r.name as }

@[simp] theorem addFiles_nil : addFiles [] = id := by
  funext r
  simp [addFiles, filesOf]

theorem addFiles_cons (a : Account) (as : List Account) :
    addFiles (a :: as) = addFiles as ∘ addFiles [a] := by
  funext r
  have hfiles : filesOf r.name (a :: as) = filesOf r.name [a] ++ filesOf r.name as := by
    rw [← List.singleton_append]
    simp only [filesOf, List.filter_append, List.filterMap_append]
  simp [addFiles, hfiles]

theorem addFiles_singleton_of_skipped {a : Account} (h : a.isSkipped) : addFiles [a] = id := by
  have hnone : a.uploaded? = none := by
    simpa [Account.isSkipped, Account.uploaded?] using h
  funext r
  by_cases ha : a.isFor r.name <;> simp [addFiles, filesOf, ha, hnone]

theorem addFiles_singleton_of_ne {a : Account} {r : RepresentationReport}
    (h : a.isFor r.name = false) : addFiles [a] r = r := by
  simp [addFiles, filesOf, h]

theorem addFile_representations [Media.Guess] {e : FileEntry} {name : String} (p : Progress)
    (he : e.representation? = some name) (url location : String) :
    (p.addFile name ⟨e.fileName, location⟩).representations =
      p.representations.map (addFiles [⟨e, some ⟨url, e.upload, .ok location⟩⟩]) := by
  simp only [Progress.addFile]
  apply List.map_congr_left
  intro r _
  by_cases h : r.name = name
  · subst h
    simp [addFiles, filesOf, Account.isFor, he, Account.uploaded?, Account.location?,
      Except.toOption]
  · have hne : ¬name = r.name := fun heq => h heq.symm
    simp [addFiles, filesOf, Account.isFor, he, h, hne]

/-! ## Consistency -/

namespace Progress

/-- No name has been created twice, and none has been both created and refused. -/
structure Consistent (p : Progress) : Prop where
  names_nodup : p.names.Nodup
  refused_nodup : p.refused.Nodup
  disjoint : ∀ name ∈ p.names, name ∉ p.refused

theorem consistent_start : start.Consistent where
  names_nodup := List.nodup_nil
  refused_nodup := List.nodup_nil
  disjoint := by simp

namespace Consistent

variable {p : Progress} {name : String}

theorem skip (hp : p.Consistent) (file : Path) : (p.skip file).Consistent :=
  ⟨hp.names_nodup, hp.refused_nodup, hp.disjoint⟩

theorem refuse (hp : p.Consistent) (hr : name ∉ p.refused) (hn : name ∉ p.names) :
    (p.refuse name).Consistent where
  names_nodup := hp.names_nodup
  refused_nodup := by
    have hne : ∀ a ∈ p.refused, a ≠ name := fun a ha heq => hr (heq ▸ ha)
    simpa [List.nodup_append] using ⟨hp.refused_nodup, hne⟩
  disjoint := by
    intro other hother
    have hne : other ≠ name := fun heq => hn (heq ▸ hother)
    simp [hp.disjoint other hother, hne]

theorem create (hp : p.Consistent) (hr : name ∉ p.refused) (hn : name ∉ p.names)
    (url : String) : (p.create name url).Consistent where
  names_nodup := by
    have hne : ∀ a ∈ p.names, a ≠ name := fun a ha heq => hn (heq ▸ ha)
    simpa [List.nodup_append] using ⟨hp.names_nodup, hne⟩
  refused_nodup := hp.refused_nodup
  disjoint := by
    intro other hother
    rw [names_create, List.mem_append, List.mem_singleton] at hother
    rcases hother with hother | rfl
    · exact hp.disjoint other hother
    · exact hr

theorem receive (hp : p.Consistent) (e : FileEntry) (reply : Except RemoteError String) :
    (p.receive e name reply).Consistent where
  names_nodup := by simpa using hp.names_nodup
  refused_nodup := by simpa using hp.refused_nodup
  disjoint := by simpa using hp.disjoint

end Consistent

end Progress

end Ingest.Store
