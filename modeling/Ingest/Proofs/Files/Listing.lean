import Ingest.Proofs.Files.Components
import Ingest.Proofs.Files.Following
/-!
# What is listed in a folder

Of the names in a folder those are listed that lead to a file: directly, or through links, as far
as the path of the folder leaves room for them and the folders on the way may be searched.  The
order in which the tree holds its nodes has no part in this.
-/

namespace Ingest.Files.Tree

/-- Each location holds one node, under a name that a path can lead to. -/
structure IsProper (t : Tree) : Prop where
  distinct : (t.nodes.map (·.1)).Nodup
  named : ∀ entry ∈ t.nodes, ∀ name ∈ entry.1.getLast?,
    IsEntry name ∧ '/' ∉ name.toList ∧ '\x00' ∉ name.toList

variable {t : Tree} {folder location : Location} {name : String} {node : Node} {p : Path}
  {access : Access} {k n : Nat}

/-! ## Names -/

theorem nameBelow_eq_some_iff :
    (if location ≠ [] && location.dropLast = folder then location.getLast? else none) =
      some name ↔ location = folder ++ [name] := by
  constructor
  · intro hname
    split at hname
    · rename_i hfolder
      simp only [Bool.and_eq_true, decide_eq_true_eq] at hfolder
      obtain ⟨before, rfl⟩ := List.getLast?_eq_some_iff.1 hname
      rw [List.dropLast_concat] at hfolder
      rw [hfolder.2]
    · cases hname
  · rintro rfl
    simp

theorem mem_names_iff : name ∈ t.names folder ↔ ∃ node, (folder ++ [name], node) ∈ t.nodes := by
  rw [names, List.mem_filterMap]
  constructor
  · rintro ⟨⟨location, node⟩, hmem, hname⟩
    exact ⟨node, nameBelow_eq_some_iff.1 hname ▸ hmem⟩
  · rintro ⟨node, hmem⟩
    exact ⟨_, hmem, nameBelow_eq_some_iff.2 rfl⟩

theorem IsProper.isEntry (ht : t.IsProper) (h : name ∈ t.names folder) :
    IsEntry name ∧ '/' ∉ name.toList ∧ '\x00' ∉ name.toList := by
  obtain ⟨node, hmem⟩ := mem_names_iff.1 h
  exact ht.named _ hmem name List.getLast?_concat

/-- What lies at a location is the node there, wherever it stands in the tree. -/
theorem IsProper.lookup_eq_some_iff (ht : t.IsProper) :
    t.nodes.lookup location = some node ↔ (location, node) ∈ t.nodes := by
  have hdistinct := ht.distinct
  generalize t.nodes = nodes at hdistinct
  induction nodes with
  | nil => simp
  | cons first rest ih =>
      obtain ⟨location', node'⟩ := first
      rw [List.map_cons, List.nodup_cons] at hdistinct
      rw [List.lookup_cons, List.mem_cons]
      by_cases hsame : location = location'
      · subst hsame
        have hnot : (location, node) ∉ rest := fun hmem =>
          hdistinct.1 (List.mem_map.2 ⟨(location, node), hmem, rfl⟩)
        simp [hnot, eq_comm]
      · rw [beq_false_of_ne hsame]
        simp [hsame, ih hdistinct.2]

theorem IsProper.perm {t' : Tree} (ht : t.IsProper) (h : t'.nodes.Perm t.nodes) : t'.IsProper :=
  ⟨(h.map _).nodup_iff.2 ht.distinct,
    fun entry hentry => ht.named entry (h.mem_iff.1 hentry)⟩

end Ingest.Files.Tree
