import Ingest.Text.Blank
import Mathlib.Data.List.DropRight
/-!
# Trimmed texts

A text is what trimming leaves of it, with characters of the class put around it.  So the trimmed
text neither ends nor, where both ends are trimmed, begins with the class, and it is the same
however many characters of the class are put around the text first.
-/

namespace Ingest.Text

variable {p : Char → Bool} {s : String}

/-! ## The end -/

theorem toList_trimEndWhile (p : Char → Bool) (s : String) :
    (trimEndWhile p s).toList = s.toList.rdropWhile p := String.toList_ofList

theorem trimEndWhile_append (s : String) {after : String} (h : ∀ c ∈ after.toList, p c = true) :
    trimEndWhile p (s ++ after) = trimEndWhile p s := by
  have hreverse : ∀ c ∈ after.toList.reverse, p c = true :=
    fun c hc => h c (List.mem_reverse.1 hc)
  rw [trimEndWhile, String.toList_append, List.reverse_append,
    List.dropWhile_append_of_pos hreverse, trimEndWhile]

theorem exists_after (p : Char → Bool) (s : String) :
    ∃ after : String, (∀ c ∈ after.toList, p c = true) ∧ s = trimEndWhile p s ++ after := by
  refine ⟨String.ofList (s.toList.rtakeWhile p), ?_, ?_⟩
  · intro c hc
    rw [String.toList_ofList] at hc
    exact List.mem_rtakeWhile_imp hc
  · apply String.toList_inj.1
    rw [String.toList_append, toList_trimEndWhile, String.toList_ofList,
      List.rdropWhile_append_rtakeWhile]

theorem getLast?_trimEndWhile {c : Char} (h : (trimEndWhile p s).toList.getLast? = some c) :
    p c = false := by
  rw [toList_trimEndWhile] at h
  obtain ⟨hne, rfl⟩ := List.mem_getLast?_eq_getLast h
  exact Bool.eq_false_iff.2 (List.rdropWhile_last_not p _ hne)

/-! ## Both ends -/

theorem trimWhile_eq (p : Char → Bool) (s : String) :
    trimWhile p s = trimEndWhile p (String.ofList (s.toList.dropWhile p)) := by
  rw [trimEndWhile, String.toList_ofList, trimWhile]

theorem trimWhile_prepend (s : String) {before : String} (h : ∀ c ∈ before.toList, p c = true) :
    trimWhile p (before ++ s) = trimWhile p s := by
  rw [trimWhile, String.toList_append, List.dropWhile_append_of_pos h, trimWhile]

theorem trimWhile_append (s : String) {after : String} (h : ∀ c ∈ after.toList, p c = true) :
    trimWhile p (s ++ after) = trimWhile p s := by
  rw [trimWhile_eq, trimWhile_eq, String.toList_append, List.dropWhile_append]
  split
  · -- Nothing is left of either text.
    rename_i hnone
    rw [List.dropWhile_eq_nil_iff.2 h, List.isEmpty_iff.1 hnone]
  · rw [String.ofList_append, String.ofList_toList]
    exact trimEndWhile_append _ h

theorem exists_around (p : Char → Bool) (s : String) :
    ∃ before after : String, (∀ c ∈ before.toList, p c = true) ∧
      (∀ c ∈ after.toList, p c = true) ∧ s = before ++ trimWhile p s ++ after := by
  obtain ⟨after, hafter, hs⟩ := exists_after p (String.ofList (s.toList.dropWhile p))
  refine ⟨String.ofList (s.toList.takeWhile p), after, ?_, hafter, ?_⟩
  · intro c hc
    rw [String.toList_ofList] at hc
    exact List.mem_takeWhile_imp hc
  · rw [trimWhile_eq, String.append_assoc, ← hs, ← String.ofList_append,
      List.takeWhile_append_dropWhile, String.ofList_toList]

theorem getLast?_trimWhile {c : Char} (h : (trimWhile p s).toList.getLast? = some c) :
    p c = false := by
  rw [trimWhile_eq] at h
  exact getLast?_trimEndWhile h

theorem head?_trimWhile {c : Char} (h : (trimWhile p s).toList.head? = some c) :
    p c = false := by
  rw [trimWhile_eq, toList_trimEndWhile, String.toList_ofList] at h
  have hfirst : (s.toList.dropWhile p).head? = some c := by
    obtain ⟨dropped, hdropped⟩ := List.rdropWhile_prefix p (s.toList.dropWhile p)
    rw [← hdropped, List.head?_append, h, Option.some_or]
  have hnot := List.head?_dropWhile_not p s.toList
  rw [hfirst] at hnot
  simpa using hnot

end Ingest.Text
