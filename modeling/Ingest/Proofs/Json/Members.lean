import Ingest.Json.Value
import Ingest.Proofs.Result
import Mathlib.Data.List.Induction
import Mathlib.Data.String.Basic
/-!
# Members of objects

The members of an object that has been read are sorted by their keys, and no key is repeated.  So
an object is known by the values under its keys; and the value under a key is the one that was given
last for it.
-/

namespace Ingest.Json

namespace Value

variable {key : String} {value : Value} {members members' : List (String × Value)}

theorem lookup_cons (key k : String) (v : Value) (members : List (String × Value)) :
    List.lookup key ((k, v) :: members) = if key = k then some v else members.lookup key := by
  by_cases h : key = k <;> simp [List.lookup_cons, h, beq_false_of_ne]

/-! ## Sorting -/

def IsSorted (members : List (String × Value)) : Prop := members.Pairwise (·.1 < ·.1)

theorem mem_insert {m : String × Value} (h : m ∈ insert key value members) :
    m = (key, value) ∨ m ∈ members := by
  induction members with
  | nil => exact .inl (List.mem_singleton.1 h)
  | cons n members ih =>
    obtain ⟨k, v⟩ := n
    rw [insert] at h
    split at h
    · exact List.mem_cons.1 h
    · split at h
      · rcases List.mem_cons.1 h with h | h
        · exact .inl h
        · exact .inr (List.mem_cons_of_mem _ h)
      · rcases List.mem_cons.1 h with rfl | h
        · exact .inr List.mem_cons_self
        · exact (ih h).imp_right (List.mem_cons_of_mem _)

theorem isSorted_insert (key : String) (value : Value) (h : IsSorted members) :
    IsSorted (insert key value members) := by
  induction members with
  | nil => exact List.pairwise_singleton _ _
  | cons n members ih =>
    obtain ⟨k, v⟩ := n
    obtain ⟨hfirst, hrest⟩ := List.pairwise_cons.1 h
    rw [insert]
    split
    · rename_i hlt
      refine List.pairwise_cons.2 ⟨?_, h⟩
      rintro m hm
      rcases List.mem_cons.1 hm with rfl | hm
      · exact hlt
      · exact hlt.trans (hfirst m hm)
    · rename_i hlt
      split
      · rename_i heq
        subst heq
        exact List.pairwise_cons.2 ⟨hfirst, hrest⟩
      · rename_i hne
        refine List.pairwise_cons.2 ⟨?_, ih hrest⟩
        intro m hm
        rcases mem_insert hm with rfl | hm
        · exact lt_of_le_of_ne (not_lt.1 hlt) (Ne.symm hne)
        · exact hfirst m hm

theorem lookup_insert (key other : String) (value : Value) (members : List (String × Value)) :
    (insert key value members).lookup other =
      if other = key then some value else members.lookup other := by
  induction members with
  | nil => rw [insert, lookup_cons]
  | cons n members ih =>
    obtain ⟨k, v⟩ := n
    rw [insert]
    split
    · rw [lookup_cons]
    · split
      · rename_i heq
        subst heq
        simp only [lookup_cons]
        split <;> rfl
      · rename_i hne
        rw [lookup_cons, lookup_cons, ih]
        by_cases hk : other = k
        · have hother : other ≠ key := fun heq => hne (heq.symm.trans hk)
          rw [if_pos hk, if_pos hk, if_neg hother]
        · rw [if_neg hk, if_neg hk]

theorem isSorted_sortMembers (members : List (String × Value)) :
    IsSorted (sortMembers members) := by
  have hfold : ∀ sorted, IsSorted sorted →
      IsSorted (members.foldl (fun sorted m => insert m.1 m.2 sorted) sorted) := by
    induction members with
    | nil => exact fun _ h => h
    | cons m members ih => exact fun sorted h => ih _ (isSorted_insert m.1 m.2 h)
  exact hfold [] List.Pairwise.nil

theorem sortMembers_concat (members : List (String × Value)) (m : String × Value) :
    sortMembers (members ++ [m]) = insert m.1 m.2 (sortMembers members) := by
  rw [sortMembers, List.foldl_append]
  rfl

theorem mem_of_mem_sortMembers {m : String × Value} (h : m ∈ sortMembers members) :
    m ∈ members := by
  induction members using List.reverseRecOn with
  | nil => exact h
  | append_singleton members n ih =>
    rw [sortMembers_concat] at h
    rcases mem_insert h with rfl | h
    · exact List.mem_append_right _ List.mem_cons_self
    · exact List.mem_append_left _ (ih h)

/-- Under a key stands what was given for it last. -/
theorem lookup_sortMembers (members : List (String × Value)) (key : String) :
    (sortMembers members).lookup key = members.reverse.lookup key := by
  induction members using List.reverseRecOn with
  | nil => rfl
  | append_singleton members m ih =>
    rw [sortMembers_concat, lookup_insert, ih, List.reverse_concat, ← lookup_cons]

/-! ## Objects by their keys -/

theorem IsSorted.lookup_eq_none {k : String} {v : Value} (h : IsSorted ((k, v) :: members))
    (hkey : key ≤ k) : members.lookup key = none := by
  rw [List.lookup_eq_none_iff]
  intro m hm
  have hlt := (List.pairwise_cons.1 h).1 m hm
  exact bne_iff_ne.2 (lt_of_le_of_lt hkey hlt).ne

theorem IsSorted.lookup_of_mem {v : Value} (h : IsSorted members) (hm : (key, v) ∈ members) :
    members.lookup key = some v := by
  induction members with
  | nil => cases hm
  | cons m members ih =>
    obtain ⟨k, w⟩ := m
    have hrest := List.pairwise_cons.1 h
    rw [lookup_cons]
    rcases List.mem_cons.1 hm with heq | hm
    · cases heq
      exact if_pos rfl
    · have hlt : k < key := hrest.1 _ hm
      rw [if_neg hlt.ne', ih hrest.2 hm]

/-- Sorted members with the same values under all keys are the same. -/
theorem IsSorted.eq_of_lookup (h : IsSorted members) (h' : IsSorted members')
    (hlookup : ∀ key, members.lookup key = members'.lookup key) : members = members' := by
  induction members generalizing members' with
  | nil =>
    cases members' with
    | nil => rfl
    | cons m' _ =>
      have hk := hlookup m'.1
      rw [lookup_cons m'.1 m'.1, if_pos rfl] at hk
      cases hk
  | cons m members ih =>
    cases members' with
    | nil =>
      have hk := hlookup m.1
      rw [lookup_cons m.1 m.1, if_pos rfl] at hk
      cases hk
    | cons m' members' =>
      obtain ⟨k, v⟩ := m
      obtain ⟨k', v'⟩ := m'
      -- The first key of each list stands in the other one, so neither comes before the other.
      have hfirst : k = k' := by
        rcases lt_trichotomy k k' with hlt | heq | hgt
        · have hk := hlookup k
          rw [lookup_cons, if_pos rfl, lookup_cons, if_neg hlt.ne, h'.lookup_eq_none hlt.le] at hk
          cases hk
        · exact heq
        · have hk := hlookup k'
          rw [lookup_cons, if_neg hgt.ne, lookup_cons, if_pos rfl, h.lookup_eq_none hgt.le] at hk
          cases hk
      subst hfirst
      have hvalue : v = v' := by
        have hk := hlookup k
        rwa [lookup_cons, if_pos rfl, lookup_cons, if_pos rfl, Option.some.injEq] at hk
      have hrest : members = members' := by
        refine ih (List.pairwise_cons.1 h).2 (List.pairwise_cons.1 h').2 fun key => ?_
        by_cases hkey : key = k
        · rw [h.lookup_eq_none hkey.le, h'.lookup_eq_none hkey.le]
        · have hk := hlookup key
          rwa [lookup_cons, if_neg hkey, lookup_cons, if_neg hkey] at hk
      rw [hvalue, hrest]

theorem IsSorted.sortMembers_eq (h : IsSorted members) : sortMembers members = members := by
  refine (isSorted_sortMembers members).eq_of_lookup h fun key => ?_
  rw [lookup_sortMembers]
  induction members with
  | nil => rfl
  | cons m members ih =>
    obtain ⟨k, v⟩ := m
    rw [List.reverse_cons, List.lookup_append, ih (List.pairwise_cons.1 h).2, lookup_cons,
      lookup_cons]
    by_cases hkey : key = k
    · rw [h.lookup_eq_none hkey.le, if_pos hkey, if_pos hkey, Option.none_or]
    · rw [if_neg hkey, if_neg hkey, List.lookup_nil, Option.or_none]

end Value

end Ingest.Json
