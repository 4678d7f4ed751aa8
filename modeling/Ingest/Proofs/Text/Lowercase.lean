import Ingest.Text.Lowercase
/-!
# What lower-casing leaves

Lower-casing replaces each character by one or two, so it leaves nothing of the empty text only.
Every character that it puts in place of another one stands behind the capital letters of ASCII.
So no such letter is left, and no mark of ASCII comes into the text.
-/

namespace Ingest.Text

/-! ## Characters -/

def firstSmall : Nat := 0x61

theorem isUpper_iff {c : Char} : c.isUpper = true ↔ 0x41 ≤ c.toNat ∧ c.toNat ≤ 0x5A := by
  change decide ('A'.val ≤ c.val ∧ c.val ≤ 'Z'.val) = true ↔ _
  simp [UInt32.le_iff_toNat_le, ← Char.toNat_val]

/-- No capital letter of ASCII goes without a lower case. -/
theorem covered_of_isUpper {c : Char} (h : c.isUpper = true) :
    ∃ r ∈ lowerCaseRuns, r.covers c.toNat = true := by
  have hcapitals : (⟨0x41, 0x5A, 1, 32⟩ : CaseRun) ∈ lowerCaseRuns := by
    unfold lowerCaseRuns
    exact List.mem_cons_self
  refine ⟨_, hcapitals, ?_⟩
  simpa [CaseRun.covers, Nat.mod_one] using isUpper_iff.1 h

theorem firstSmall_le_of_mem_runs :
    ∀ r ∈ lowerCaseRuns, (firstSmall : Int) ≤ r.first + r.shift := by
  decide +kernel

theorem CaseRun.firstSmall_le {r : CaseRun} (hr : r ∈ lowerCaseRuns) {n : Nat}
    (hn : r.covers n = true) : firstSmall ≤ (n + r.shift).toNat := by
  have hfirst := firstSmall_le_of_mem_runs r hr
  simp only [covers, Bool.and_eq_true, decide_eq_true_eq] at hn
  omega

theorem toNat_ofNat_eq (n : Nat) : (Char.ofNat n).toNat = n ∨ (Char.ofNat n).toNat = 0 := by
  by_cases h : n.isValidChar
  · left
    rw [Char.ofNat, dif_pos h]
    rfl
  · right
    rw [Char.ofNat, dif_neg h]
    rfl

/-- The character is no mark or capital letter of ASCII. -/
def isBeyondCapitals (c : Char) : Bool := c.toNat = 0 || firstSmall ≤ c.toNat

theorem mem_lowerChar {c d : Char} (h : d ∈ lowerChar c) :
    (d = c ∧ c.isUpper = false) ∨ isBeyondCapitals d = true := by
  unfold lowerChar at h
  split at h
  · -- The one character that becomes two.
    right
    rcases List.mem_cons.1 h with rfl | h
    · rfl
    · rw [List.mem_singleton.1 h]
      rfl
  · split at h
    · rename_i r hfind
      right
      have hcovers := List.find?_some hfind
      have hsmall := CaseRun.firstSmall_le (List.mem_of_find?_eq_some hfind) hcovers
      rw [List.mem_singleton.1 h]
      rcases toNat_ofNat_eq (c.toNat + r.shift).toNat with hvalid | hzero
      · simp [isBeyondCapitals, hvalid, hsmall]
      · simp [isBeyondCapitals, hzero]
    · rename_i hfind
      left
      refine ⟨List.mem_singleton.1 h, Bool.eq_false_iff.2 fun hupper => ?_⟩
      obtain ⟨r, hr, hcovers⟩ := covered_of_isUpper hupper
      exact List.find?_eq_none.1 hfind r hr hcovers

theorem lowerChar_ne_nil (c : Char) : lowerChar c ≠ [] := by
  unfold lowerChar
  split
  · exact List.cons_ne_nil _ _
  · split <;> exact List.cons_ne_nil _ _

theorem isUpper_of_isBeyondCapitals {c : Char} (h : isBeyondCapitals c = true) :
    c.isUpper = false := by
  simp only [isBeyondCapitals, Bool.or_eq_true, decide_eq_true_eq] at h
  rw [Bool.eq_false_iff, ne_eq, isUpper_iff]
  unfold firstSmall at h
  omega

/-! ## Texts -/

theorem mem_lowerAfter {before cs : List Char} {d : Char} (h : d ∈ lowerAfter before cs) :
    (d ∈ cs ∧ d.isUpper = false) ∨ isBeyondCapitals d = true := by
  induction cs generalizing before with
  | nil => cases h
  | cons c cs ih =>
      rw [lowerAfter, List.mem_append] at h
      rcases h with h | h
      · split at h
        · -- Both forms of a small sigma are beyond ASCII.
          right
          rw [List.mem_singleton] at h
          subst h
          split <;> decide
        · rcases mem_lowerChar h with ⟨rfl, hupper⟩ | hbeyond
          · exact .inl ⟨List.mem_cons_self, hupper⟩
          · exact .inr hbeyond
      · rcases ih h with ⟨hmem, hupper⟩ | hbeyond
        · exact .inl ⟨List.mem_cons_of_mem c hmem, hupper⟩
        · exact .inr hbeyond

/-- No capital letter of ASCII is left. -/
theorem isUpper_of_mem_lowercase {s : String} {c : Char} (h : c ∈ (lowercase s).toList) :
    c.isUpper = false := by
  rw [lowercase, String.toList_ofList] at h
  rcases mem_lowerAfter h with ⟨-, hupper⟩ | hbeyond
  · exact hupper
  · exact isUpper_of_isBeyondCapitals hbeyond

theorem mem_of_mem_lowercase {s : String} {c : Char} (h : c ∈ (lowercase s).toList)
    (hmark : isBeyondCapitals c = false) : c ∈ s.toList := by
  rw [lowercase, String.toList_ofList] at h
  rcases mem_lowerAfter h with ⟨hmem, -⟩ | hbeyond
  · exact hmem
  · rw [hmark] at hbeyond
    cases hbeyond

theorem lowercase_eq_empty_iff {s : String} : lowercase s = "" ↔ s = "" := by
  rw [lowercase, ← String.toList_eq_nil_iff, ← String.toList_eq_nil_iff, String.toList_ofList]
  cases s.toList with
  | nil => exact iff_of_true rfl rfl
  | cons c cs =>
      refine iff_of_false ?_ (List.cons_ne_nil c cs)
      intro hnil
      have hfirst := (List.append_eq_nil_iff.1 hnil).1
      split at hfirst
      · cases hfirst
      · exact lowerChar_ne_nil c hfirst

end Ingest.Text
