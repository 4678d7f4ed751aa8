import Ingest.Text.Normal
/-!
# Characters that composing leaves alone

Composing a text replaces letters with marks by single characters and puts marks in order.  An
ASCII character that no mark is written with is none of these and stays in the text.
-/

namespace Ingest.Text

/-- Marks are written with the character: it is a letter or one of a few signs.  Only its place in
ASCII is looked at. -/
def takesMarks (n : Nat) : Bool :=
  (0x3C ≤ n && n ≤ 0x3E) || (0x41 ≤ n && n ≤ 0x5A) || 0x61 ≤ n

/-! ## The table of compositions -/

theorem all_of_all_list {p : Nat → Bool} {cs : List Char}
    (h : cs.all (fun c => p c.toNat) = true) :
    ∀ c ∈ (String.ofList cs).toList, p c.toNat = true := by
  rw [String.toList_ofList]
  exact List.all_eq_true.1 h

set_option maxRecDepth 10000 in
/-- Each text of the table is looked at as a list of characters, which spares the decoding of its
bytes. -/
theorem takesMarks_of_mem_compositions :
    ∀ e ∈ compositions, ∀ c ∈ e.2.toList, takesMarks c.toNat = true := by
  unfold compositions
  simp only [List.forall_mem_cons, List.not_mem_nil, false_implies, implies_true, and_true]
  repeat' constructor
  all_goals exact all_of_all_list (by decide +kernel)

theorem le_of_mem_compositions : ∀ e ∈ compositions, 0x80 ≤ e.1 := by decide +kernel

theorem mem_of_mem_pairUp {cs : List Char} {p : Char × Char} (h : p ∈ pairUp cs) : p.1 ∈ cs := by
  induction cs using pairUp.induct with
  | case1 first composed rest ih =>
    rw [pairUp, List.mem_cons] at h
    rcases h with rfl | h
    · exact List.mem_cons_self
    · exact List.mem_cons_of_mem _ (List.mem_cons_of_mem _ (ih h))
  | case2 cs hshort =>
    rw [pairUp] at h
    · cases h
    · exact hshort

/-! ## Characters on their own -/

structure IsAlone (c : Char) : Prop where
  first : ∀ d, compose? c d = none
  second : ∀ d, compose? d c = none

theorem syllable?_eq_none {a b : Nat} (h : a < 0x80 ∨ b < 0x80) : syllable? a b = none := by
  unfold syllable? firstLead firstVowel firstSyllable beforeTrail
  rw [if_neg, if_neg]
  · simp only [Bool.and_eq_true, decide_eq_true_eq]
    omega
  · simp only [Bool.and_eq_true, decide_eq_true_eq]
    omega

theorem isAlone_of_ascii {c : Char} (hascii : c.toNat < 0x80)
    (hmarks : takesMarks c.toNat = false) : IsAlone c := by
  constructor
  · intro d
    have hentry : ∀ e ∈ compositions,
        (if e.1 = d.toNat then (pairUp e.2.toList).lookup c else none) = none := by
      intro e he
      split
      · rw [List.lookup_eq_none_iff]
        intro p hp
        have htakes := takesMarks_of_mem_compositions e he p.1 (mem_of_mem_pairUp hp)
        apply bne_iff_ne.2
        rintro rfl
        rw [hmarks] at htakes
        cases htakes
      · rfl
    rw [compose?, syllable?_eq_none (.inl hascii)]
    exact List.findSome?_eq_none_iff.2 hentry
  · intro d
    have hentry : ∀ e ∈ compositions,
        (if e.1 = c.toNat then (pairUp e.2.toList).lookup d else none) = none := by
      intro e he
      have hle := le_of_mem_compositions e he
      rw [if_neg (by omega)]
    rw [compose?, syllable?_eq_none (.inr hascii)]
    exact List.findSome?_eq_none_iff.2 hentry

/-! ## The composed form -/

theorem mem_placeMark {c d : Char} {cs : List Char} : c ∈ placeMark d cs ↔ c = d ∨ c ∈ cs := by
  induction cs with
  | nil => simp [placeMark]
  | cons e cs ih =>
    unfold placeMark
    split
    · rw [List.mem_cons, ih, List.mem_cons]
      exact or_left_comm
    · rw [List.mem_cons]

theorem mem_orderMarks {c : Char} {cs : List Char} : c ∈ orderMarks cs ↔ c ∈ cs := by
  have hfold : ∀ (cs before : List Char),
      c ∈ cs.foldl (fun before d => placeMark d before) before ↔ c ∈ before ∨ c ∈ cs := by
    intro cs
    induction cs with
    | nil => simp
    | cons d cs ih =>
      intro before
      rw [List.foldl_cons, ih, mem_placeMark, List.mem_cons, or_assoc, or_left_comm]
  rw [orderMarks, List.mem_reverse, hfold]
  simp

/-- Whichever way a character is taken, one that is composed with no other stays. -/
theorem mem_composeBehind {c : Char} (hc : IsAlone c) {start : Option Char} {marks cs : List Char}
    (h : c ∈ start.toList ++ marks ++ cs) : c ∈ composeBehind start marks cs := by
  induction cs generalizing start marks with
  | nil => simpa [composeBehind] using h
  | cons d cs ih =>
    simp only [List.mem_append, List.mem_cons, Option.mem_toList] at h
    rw [composeBehind]
    split
    · rename_i t ht
      obtain ⟨x, hx, hcompose⟩ := Option.bind_eq_some_iff.1 ht
      have hstart : start = some x := by
        split at hx
        · exact hx
        · cases hx
      apply ih
      simp only [List.mem_append, Option.mem_toList, Option.some.injEq]
      rcases h with (h | h) | rfl | h
      · obtain rfl := Option.some.inj (hstart.symm.trans h)
        rw [hc.first] at hcompose
        cases hcompose
      · exact .inl (.inr h)
      · rw [hc.second] at hcompose
        cases hcompose
      · exact .inr h
    · split
      · rw [List.mem_append, List.mem_append, Option.mem_toList]
        rcases h with h | rfl | h
        · exact .inl h
        · exact .inr (ih (by simp))
        · exact .inr (ih (by simp [h]))
      · apply ih
        simp only [List.mem_append, List.mem_singleton, Option.mem_toList]
        rcases h with (h | h) | rfl | h
        · exact .inl (.inl h)
        · exact .inl (.inr (.inl h))
        · exact .inl (.inr (.inr rfl))
        · exact .inr h

theorem mem_composed {c : Char} (hascii : c.toNat < 0x80) (hmarks : takesMarks c.toNat = false)
    {cs : List Char} (h : c ∈ cs) : c ∈ composed cs := by
  have hparts : c ∈ cs.flatMap partsOf := by
    refine List.mem_flatMap.2 ⟨c, h, ?_⟩
    rw [partsOf, if_pos hascii]
    exact List.mem_singleton_self c
  apply mem_composeBehind (isAlone_of_ascii hascii hmarks)
  simpa [mem_orderMarks] using hparts

end Ingest.Text
