import Ingest.Files.Tree
import Ingest.Proofs.Result
/-!
# Where paths lead

A path leads through folders that may be searched and through links to what it names, by as many
links as lie on the way, or nowhere.  The program that follows it finds just that, unless there are
more links than it is ready to go through; and what a longer path leads to is found from where the
shorter one ends.
-/

namespace Ingest.Files

def Node.isFile : Node → Bool
  | .file .. | .program _ | .brokenProgram _ => true
  | .folder _ | .link _ | .special _ => false

/-- A path can lead no further than here. -/
def Node.isLeaf : Node → Bool
  | .folder _ | .link _ => false
  | _ => true

structure IsEntry (part : String) : Prop where
  notEmpty : part ≠ ""
  notHere : part ≠ "."
  notUp : part ≠ ".."
  short : (Utf8.encode part).length ≤ Tree.maxName

theorem isEntry_iff {part : String} :
    IsEntry part ↔ part ≠ "" ∧ part ≠ "." ∧ part ≠ ".." ∧
      (Utf8.encode part).length ≤ Tree.maxName :=
  ⟨fun h => ⟨h.notEmpty, h.notHere, h.notUp, h.short⟩, fun ⟨h, h', h'', h'''⟩ => ⟨h, h', h'', h'''⟩⟩

instance {part : String} : Decidable (IsEntry part) := decidable_of_iff _ isEntry_iff.symm

namespace Tree

def MaySearch (t : Tree) (location : Location) : Prop := (t.accessAt location).search = true

instance {t : Tree} {location : Location} : Decidable (t.MaySearch location) :=
  inferInstanceAs (Decidable (_ = true))

structure LooksUp (t : Tree) (folder : Location) (part : String) : Prop where
  maySearch : t.MaySearch folder
  isEntry : IsEntry part

instance {t : Tree} {folder : Location} {part : String} : Decidable (t.LooksUp folder part) :=
  decidable_of_iff (t.MaySearch folder ∧ IsEntry part)
    ⟨fun h => ⟨h.1, h.2⟩, fun h => ⟨h.maySearch, h.isEntry⟩⟩

/-- Parts lead from a folder through links to what lies at a location.  A link leads on from the
folder that it lies in.  Only an empty part asks for no right to search. -/
inductive Leads (t : Tree) : Location → List String → (links : Nat) → Location → Node → Prop
  | here {current : Location} : Leads t current [] 0 current (.folder (t.accessAt current))
  | empty {current location : Location} {rest : List String} {links : Nat} {node : Node} :
      Leads t current rest links location node → Leads t current ("" :: rest) links location node
  | dot {current location : Location} {rest : List String} {links : Nat} {node : Node} :
      t.MaySearch current → Leads t current rest links location node →
      Leads t current ("." :: rest) links location node
  | up {current location : Location} {rest : List String} {links : Nat} {node : Node} :
      t.MaySearch current → Leads t current.dropLast rest links location node →
      Leads t current (".." :: rest) links location node
  | folder {current location : Location} {part : String} {rest : List String} {links : Nat}
      {node : Node} {access : Access} : t.LooksUp current part →
      t.find? (current ++ [part]) = some (.folder access) →
      Leads t (current ++ [part]) rest links location node →
      Leads t current (part :: rest) links location node
  | link {current location : Location} {part : String} {rest : List String} {links : Nat}
      {node : Node} {target : Path} : t.LooksUp current part →
      t.find? (current ++ [part]) = some (.link target) →
      Leads t (origin target current) (parts target ++ rest) links location node →
      Leads t current (part :: rest) (links + 1) location node
  | last {current : Location} {part : String} {node : Node} : t.LooksUp current part →
      t.find? (current ++ [part]) = some node → node.isLeaf = true →
      Leads t current [part] 0 (current ++ [part]) node

variable {t : Tree} {current location : Location} {part : String} {rest ps : List String}
  {links n : Nat} {node : Node} {access : Access}

/-! ## One part -/

theorem follow_here :
    t.follow true links current [] = .ok (.taken current (.folder (t.accessAt current))) := by
  rw [follow]

theorem follow_empty :
    t.follow true links current ("" :: rest) = t.follow true links current rest := by
  rw [follow, if_pos rfl]

theorem not_closed (h : t.MaySearch current) : ¬(!(t.accessAt current).search) = true := by
  rw [show (t.accessAt current).search = true from h]
  exact Bool.false_ne_true

theorem follow_dot (h : t.MaySearch current) :
    t.follow true links current ("." :: rest) = t.follow true links current rest := by
  rw [follow, if_neg (by decide), if_neg (not_closed h), if_pos rfl]

theorem follow_up (h : t.MaySearch current) :
    t.follow true links current (".." :: rest) = t.follow true links current.dropLast rest := by
  rw [follow, if_neg (by decide), if_neg (not_closed h), if_neg (by decide), if_pos rfl]

theorem follow_entry (h : t.LooksUp current part) :
    t.follow true links current (part :: rest) =
      match t.find? (current ++ [part]) with
      | none => if rest = [] then .ok (.free (current ++ [part])) else .error .missing
      | some (.folder _) => t.follow true links (current ++ [part]) rest
      | some (.link target) =>
        match links with
        | 0 => .error .tooManyLinks
        | links + 1 => t.follow true links (origin target current) (parts target ++ rest)
      | some node =>
        if rest = [] then .ok (.taken (current ++ [part]) node) else .error .notFolder := by
  obtain ⟨hsearch, hentry⟩ := h
  rw [follow, if_neg hentry.notEmpty, if_neg (not_closed hsearch), if_neg hentry.notHere,
    if_neg hentry.notUp, if_neg (Nat.not_lt.2 hentry.short)]
  dsimp only
  cases t.find? (current ++ [part]) with
  | none => rfl
  | some node =>
      cases node with
      | link target => exact if_neg (by simp)
      | _ => rfl

theorem follow_folder (h : t.LooksUp current part)
    (hfind : t.find? (current ++ [part]) = some (.folder access)) :
    t.follow true links current (part :: rest) =
      t.follow true links (current ++ [part]) rest := by
  rw [follow_entry h, hfind]

theorem follow_link {target : Path} (h : t.LooksUp current part)
    (hfind : t.find? (current ++ [part]) = some (.link target)) :
    t.follow true (links + 1) current (part :: rest) =
      t.follow true links (origin target current) (parts target ++ rest) := by
  rw [follow_entry h, hfind]

theorem follow_link_zero {target : Path} (h : t.LooksUp current part)
    (hfind : t.find? (current ++ [part]) = some (.link target)) :
    t.follow true 0 current (part :: rest) = .error .tooManyLinks := by
  rw [follow_entry h, hfind]

theorem follow_last (h : t.LooksUp current part) (hfind : t.find? (current ++ [part]) = some node)
    (hleaf : node.isLeaf = true) :
    t.follow true links current [part] = .ok (.taken (current ++ [part]) node) := by
  rw [follow_entry h, hfind]
  cases node with
  | file | program | brokenProgram | special => rfl
  | folder | link => cases hleaf

/-! ## All parts -/

/-- What parts lead to is found, unless there are too many links on the way. -/
theorem follow_of_leads (h : t.Leads current ps n location node) (links : Nat) :
    t.follow true links current ps =
      if n ≤ links then .ok (.taken location node) else .error .tooManyLinks := by
  induction h generalizing links with
  | here => rw [follow_here, if_pos (Nat.zero_le links)]
  | empty _ ih => rw [follow_empty, ih]
  | dot hsearch _ ih => rw [follow_dot hsearch, ih]
  | up hsearch _ ih => rw [follow_up hsearch, ih]
  | folder hentry hfind _ ih => rw [follow_folder hentry hfind, ih]
  | link hentry hfind _ ih =>
      cases links with
      | zero => rw [follow_link_zero hentry hfind, if_neg (Nat.not_succ_le_zero _)]
      | succ links =>
          rw [follow_link hentry hfind, ih]
          simp only [Nat.succ_le_succ_iff]
  | last hentry hfind hleaf =>
      rw [follow_last hentry hfind hleaf, if_pos (Nat.zero_le links)]

theorem Leads.unique {n' : Nat} {location' : Location} {node' : Node}
    (h : t.Leads current ps n location node) (h' : t.Leads current ps n' location' node') :
    n = n' ∧ location = location' ∧ node = node' := by
  -- With as many links as either way takes, the same is found, so neither takes more.
  have hfound := (follow_of_leads h n).symm.trans (follow_of_leads h' n)
  have hfound' := (follow_of_leads h n').symm.trans (follow_of_leads h' n')
  rw [if_pos (Nat.le_refl n)] at hfound
  rw [if_pos (Nat.le_refl n')] at hfound'
  split at hfound
  · split at hfound'
    · obtain ⟨hlocation, hnode⟩ := Place.taken.inj (Except.ok.inj hfound)
      exact ⟨by omega, hlocation, hnode⟩
    · cases hfound'
  · cases hfound

theorem Leads.congr {t' : Tree} (hfind : ∀ location, t.find? location = t'.find? location)
    (h : t.Leads current ps n location node) : t'.Leads current ps n location node := by
  have haccess : ∀ location, t.accessAt location = t'.accessAt location := by
    intro location
    rw [accessAt, accessAt, hfind]
  have hmay : ∀ {folder}, t.MaySearch folder → t'.MaySearch folder := by
    intro folder h
    rwa [MaySearch, ← haccess]
  have hlooks : ∀ {folder name}, t.LooksUp folder name → t'.LooksUp folder name :=
    fun h => ⟨hmay h.maySearch, h.isEntry⟩
  induction h with
  | here => exact haccess _ ▸ .here
  | empty _ ih => exact .empty ih
  | dot hsearch _ ih => exact .dot (hmay hsearch) ih
  | up hsearch _ ih => exact .up (hmay hsearch) ih
  | folder hlook hfolder _ ih => exact .folder (hlooks hlook) (hfind _ ▸ hfolder) ih
  | link hlook hlink _ ih => exact .link (hlooks hlook) (hfind _ ▸ hlink) ih
  | last hlook hnode hleaf => exact .last (hlooks hlook) (hfind _ ▸ hnode) hleaf

/-! ## Paths -/

/-- A path leads to what lies at a location, and is short enough to be followed there. -/
structure Reaches (t : Tree) (p : Path) (links : Nat) (location : Location) (node : Node) :
    Prop where
  notEmpty : p.text ≠ ""
  noZero : '\x00' ∉ p.text.toList
  short : (Utf8.encode p.text).length ≤ maxPath
  few : links ≤ maxLinks
  leads : t.Leads (origin p t.workingFolder) (parts p) links location node

theorem Reaches.congr {t' : Tree} {p : Path}
    (hfind : ∀ location, t.find? location = t'.find? location)
    (hfolder : t.workingFolder = t'.workingFolder) (h : t.Reaches p n location node) :
    t'.Reaches p n location node :=
  ⟨h.notEmpty, h.noZero, h.short, h.few, hfolder ▸ h.leads.congr hfind⟩

end Tree

end Ingest.Files
