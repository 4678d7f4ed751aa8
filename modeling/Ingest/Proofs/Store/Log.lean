import Ingest.Store
/-!
# The log of a record

What the exchanges of a run say about a record: which representations were created or refused, how
the uploads went, and which file each upload belongs to.  All of it is read from the log and the
list of files, without looking at how a record is stored.
-/

namespace Ingest.Store

open Repository

abbrev Call := Exchange Request Reply

structure Version where
  name : String
  url : String
  deriving DecidableEq, Repr

def Version.ofReport (r : RepresentationReport) : Version := ⟨r.name, r.versionUrl⟩

/-- An upload: the version it went to, the file, and the address of the file if it succeeded. -/
structure Upload where
  versionUrl : String
  file : FileUpload
  reply : Except RemoteError String

/-! ## Single calls -/

/-- What a request is for in the course of an import. -/
inductive Phase where
  | preparing
  | identifying
  | uploading
  | closing
  deriving DecidableEq, Repr

namespace Call

def phase (x : Call) : Phase :=
  match x.request with
  | .createProvider .. | .createDataSet .. => .preparing
  | .createCloudId _ | .getCloudId _ => .identifying
  | .createRepresentation .. | .addFile .. => .uploading
  | .persist _ | .assign .. => .closing

@[simp] def asked? : Call → Option String
  | ⟨.createRepresentation _ name _, _⟩ => some name
  | _ => none

@[simp] def created? : Call → Option Version
  | ⟨.createRepresentation _ name _, .ok url⟩ => some ⟨name, url⟩
  | _ => none

@[simp] def refused? : Call → Option String
  | ⟨.createRepresentation _ name _, .error _⟩ => some name
  | _ => none

@[simp] def upload? : Call → Option Upload
  | ⟨.addFile versionUrl file, reply⟩ => some ⟨versionUrl, file, reply⟩
  | _ => none

@[simp] def persist? : Call → Option String
  | ⟨.persist versionUrl, _⟩ => some versionUrl
  | _ => none

end Call

/-! ## Views of a log -/

def view {β : Type} (f : Call → Option β) (log : List Call) : List β := log.filterMap f

section View

variable {β : Type} (f : Call → Option β) (x : Call) (xs ys : List Call)

@[simp] theorem view_nil : view f [] = [] := rfl

@[simp] theorem view_cons : view f (x :: xs) = (f x).toList ++ view f xs := by
  cases h : f x <;> simp [view, h]

@[simp] theorem view_append : view f (xs ++ ys) = view f xs ++ view f ys :=
  List.filterMap_append

theorem view_eq_nil {xs : List Call} (h : ∀ x ∈ xs, f x = none) : view f xs = [] :=
  List.filterMap_eq_nil_iff.2 h

def ShowsIn (phase : Phase) : Prop := ∀ x : Call, x.phase ≠ phase → f x = none

theorem ShowsIn.view_eq_nil {f : Call → Option β} {phase other : Phase} {xs : List Call}
    (hf : ShowsIn f phase) (h : ∀ x ∈ xs, x.phase = other) (hne : other ≠ phase) :
    view f xs = [] := by
  apply Store.view_eq_nil
  intro x hx
  apply hf
  rw [h x hx]
  exact hne

end View

abbrev asked (log : List Call) : List String := view Call.asked? log

abbrev created (log : List Call) : List Version := view Call.created? log

abbrev refused (log : List Call) : List String := view Call.refused? log

abbrev uploads (log : List Call) : List Upload := view Call.upload? log

abbrev persists (log : List Call) : List String := view Call.persist? log

inductive Views : {β : Type} → (Call → Option β) → Phase → Prop
  | asked : Views Call.asked? .uploading
  | created : Views Call.created? .uploading
  | refused : Views Call.refused? .uploading
  | uploads : Views Call.upload? .uploading
  | persists : Views Call.persist? .closing

theorem Views.showsIn {β : Type} {f : Call → Option β} {phase : Phase} (h : Views f phase) :
    ShowsIn f phase := by
  rintro ⟨q, r⟩ hphase
  cases h <;> cases q <;> first | exact absurd rfl hphase | rfl

/-! ## Files and their uploads -/

def isTried (refused : List String) (e : FileEntry) : Bool := e.representation?.any (· ∉ refused)

structure Account where
  entry : FileEntry
  upload : Option Upload

namespace Account

def location? (a : Account) : Option String := a.upload.bind (·.reply.toOption)

def isSkipped (a : Account) : Bool := a.location?.isNone

def uploaded? (a : Account) : Option UploadedFile :=
  a.location?.map fun location => ⟨a.entry.fileName, location⟩

def isFor (name : String) (a : Account) : Bool := a.entry.representation? = some name

end Account

/-- Gives each file its own upload: the files that are tried have one each, in their order. -/
def accounts (refused : List String) : List FileEntry → List Upload → List Account
  | [], _ => []
  | e :: es, us =>
    if isTried refused e then ⟨e, us.head?⟩ :: accounts refused es us.tail
    else ⟨e, none⟩ :: accounts refused es us

def accountsOf (files : List FileEntry) (log : List Call) : List Account :=
  accounts (refused log) files (uploads log)

def skippedOf (name : String) (as : List Account) : List Path :=
  ((as.filter (·.isFor name)).filter (·.isSkipped)).map (·.entry.file)

def filesOf (name : String) (as : List Account) : List UploadedFile :=
  (as.filter (·.isFor name)).filterMap (·.uploaded?)

/-- Accounts that fit a log are the ones read from it. -/
theorem accounts_eq {names : List String} {as : List Account}
    (h : ∀ a ∈ as, a.upload.isSome = isTried names a.entry) :
    accounts names (as.map (·.entry)) (as.filterMap (·.upload)) = as := by
  induction as with
  | nil => rfl
  | cons a as ih =>
      have ha := h a List.mem_cons_self
      have has := ih fun b hb => h b (List.mem_cons_of_mem a hb)
      obtain ⟨e, upload⟩ := a
      cases upload with
      | none => simpa [accounts, ← ha] using has
      | some u => simpa [accounts, ← ha] using has

end Ingest.Store
