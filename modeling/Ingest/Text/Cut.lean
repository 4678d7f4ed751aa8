/-!
# Cutting texts

The parts of a text between the occurrences of a separator.
-/

namespace Ingest.Text

/-- Cut a text at every occurrence of a separator; there is one part more than separators. -/
def cut (separator : Char) : List Char → List (List Char)
  | [] => [[]]
  | c :: rest =>
    if c = separator then [] :: cut separator rest
    else match cut separator rest with
      | [] => [[c]]
      | part :: parts => (c :: part) :: parts

theorem cut_ne_nil (separator : Char) (cs : List Char) : cut separator cs ≠ [] := by
  cases cs with
  | nil => simp [cut]
  | cons c rest =>
    unfold cut
    split
    · simp
    · split <;> simp

theorem cut_append (separator : Char) (cs ds : List Char) :
    cut separator (cs ++ separator :: ds) = cut separator cs ++ cut separator ds := by
  induction cs with
  | nil => simp [cut]
  | cons c cs ih =>
    rw [List.cons_append, cut, cut, ih]
    split
    · rfl
    · cases h : cut separator cs with
      | nil => exact absurd h (cut_ne_nil separator cs)
      | cons part parts => rfl

theorem cut_of_not_mem {separator : Char} {cs : List Char} (h : separator ∉ cs) :
    cut separator cs = [cs] := by
  induction cs with
  | nil => rfl
  | cons c cs ih =>
    rw [List.mem_cons, not_or] at h
    rw [cut, if_neg (Ne.symm h.1), ih h.2]

theorem not_mem_of_mem_cut {separator : Char} {cs part : List Char} (h : part ∈ cut separator cs) :
    separator ∉ part := by
  induction cs generalizing part with
  | nil => simp_all [cut]
  | cons c cs ih =>
    unfold cut at h
    split at h
    · rcases List.mem_cons.1 h with rfl | h
      · exact List.not_mem_nil
      · exact ih h
    · rename_i hc
      cases hrest : cut separator cs with
      | nil => exact absurd hrest (cut_ne_nil separator cs)
      | cons first others =>
        rw [hrest] at h ih
        rcases List.mem_cons.1 h with rfl | h
        · rw [List.mem_cons, not_or]
          exact ⟨Ne.symm hc, ih List.mem_cons_self⟩
        · exact ih (List.mem_cons_of_mem first h)

/-- The parts with the separator between them. -/
def glue (separator : Char) (parts : List (List Char)) : List Char := [separator].intercalate parts

/-- Gluing the parts together gives the text back. -/
theorem glue_cut (separator : Char) (cs : List Char) : glue separator (cut separator cs) = cs := by
  induction cs with
  | nil => rfl
  | cons c rest ih =>
    unfold cut
    cases h : cut separator rest with
    | nil => exact absurd h (cut_ne_nil separator rest)
    | cons part parts =>
      rw [h] at ih
      split
      · rename_i hc
        subst hc
        simp only [glue, List.intercalate, List.intersperse] at ih ⊢
        simpa using ih
      · cases parts with
        | nil => simpa [glue, List.intercalate] using ih
        | cons p ps => simpa [glue, List.intercalate] using ih

def holds (part : List Char) : List Char → Bool
  | [] => part.isEmpty
  | c :: rest => part.isPrefixOf (c :: rest) || holds part rest

end Ingest.Text
