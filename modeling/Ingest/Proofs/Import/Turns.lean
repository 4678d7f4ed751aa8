import Ingest.Import
/-!
# Folders at their turn

An import that looks into its folders itself looks into each when it is the folder's turn.  Where
what a folder makes up does not depend on the turn, this is the run of the import's plan.
-/

namespace Ingest.Import

open Dialogue

/-- Answer what is asked of the repository by asking it, and a folder by the record that it makes
up. -/
def byFolders (folder : Path → Option FolderRecord) :
    (q : Inquiry) → RepositoryDialogue (Finding q)
  | .repository q => Dialogue.request q
  | .folder path => .done (folder path)

theorem map_folderRecord_cons {α : Type} (found : α → Option FolderRecord) (a : α) (as : List α) :
    ((a :: as).filterMap found).map folderRecord =
      (found a).toList.map folderRecord ++ (as.filterMap found).map folderRecord := by
  cases h : found a <;> simp [h]

theorem storeRecords_append [Media.Guess] (providerId : String) (dataSetId : Option String)
    (rs rs' : List PlannedRecord) :
    storeRecords providerId dataSetId (rs ++ rs') = do
      let outcomes ← storeRecords providerId dataSetId rs
      let outcomes' ← storeRecords providerId dataSetId rs'
      return outcomes ++ outcomes' := by
  induction rs with
  | nil => exact (bind_done _).symm
  | cons r rs ih => simp only [List.cons_append, storeRecords, ih, bind_assoc, pure_eq_done,
      done_bind]

/-- A part of an import that asks only the repository is carried out as if it stood alone. -/
theorem perform_ofRepository {m : Type → Type} [Monad m] [LawfulMonad m] {α : Type}
    (answer : (q : Inquiry) → m (Finding q)) (d : RepositoryDialogue α) :
    (ofRepository d).perform answer = d.perform fun q => answer (.repository q) := by
  induction d with
  | done a => rfl
  | ask q next ih => exact bind_congr ih

section Folders

variable (folder : Path → Option FolderRecord)

theorem perform_byFolders {α : Type} (d : RepositoryDialogue α) :
    (ofRepository d).perform (byFolders folder) = d :=
  (perform_ofRepository (byFolders folder) d).trans (perform_self d)

theorem perform_storeFolders [Media.Guess] (providerId : String) (dataSetId : Option String)
    (folders : List Path) :
    (storeFolders providerId dataSetId folders).perform (byFolders folder) =
      storeRecords providerId dataSetId ((folders.filterMap folder).map folderRecord) := by
  induction folders with
  | nil => rfl
  | cons path folders ih =>
      rw [map_folderRecord_cons, storeRecords_append, ← ih]
      simp only [storeFolders, perform_bind, perform_request, perform_byFolders]
      rfl

/-- An import that looks into its folders at their turn stores what they make up, as the import of
all of them does. -/
theorem perform_inTurn [Media.Guess] (entropy : ImportEntropy) (c : ImportConfig) :
    (inTurn entropy c).perform (byFolders folder) = run entropy folder c := by
  simp only [inTurn, run, runPlan, plan, planWith, perform_bind, perform_byFolders,
    perform_storeFolders, storeRecords_append, bind_assoc, pure_eq_done, done_bind]
  rfl

end Folders

end Ingest.Import
