import Ingest.Proofs.Files.Components
/-!
# The name that a path ends with

The last part of a path that stands for something is its last name.  It is what stands in the text
behind the last slash, but for slashes and single dots at the end, and neither the folders before
it nor such an end have a say in it.  The file name of a path is its last name, unless that leads
to the folder above.  A name has an extension if it has a dot behind its first character, and that
is what stands behind the last dot.
-/

namespace Ingest

/-- A slash, or a slash and a dot, any number of times. -/
inductive IsIdleEnd : List Char → Prop where
  | none : IsIdleEnd []
  | slash {rest : List Char} : IsIdleEnd rest → IsIdleEnd ('/' :: rest)
  | dot {rest : List Char} : IsIdleEnd rest → IsIdleEnd ('/' :: '.' :: rest)

/-- The name stands last in the text of a path, at its start or behind a slash, and nothing follows
that stands for anything. -/
structure IsLastName (path name : List Char) : Prop where
  ne_nil : name ≠ []
  ne_dot : name ≠ ['.']
  slash : '/' ∉ name
  text : ∃ front back, path = front ++ name ++ back ∧
    (front = [] ∨ ∃ folder, front = folder ++ ['/']) ∧ IsIdleEnd back

namespace Path

def names (cs : List Char) : List (List Char) := (Text.cut '/' cs).filter (!isIdle ·)

/-! ## Names of longer texts -/

theorem names_append (cs ds : List Char) : names (cs ++ '/' :: ds) = names cs ++ names ds := by
  rw [names, Text.cut_append, List.filter_append, names, names]

theorem names_of_not_mem {name : List Char} (hslash : '/' ∉ name) :
    names name = if isIdle name then [] else [name] := by
  rw [names, Text.cut_of_not_mem hslash]
  cases h : isIdle name <;> simp [h]

/-- Slashes, and slashes with a dot, at the end add no name. -/
theorem names_idleEnd {back : List Char} (h : IsIdleEnd back) (cs : List Char) :
    names (cs ++ back) = names cs := by
  induction h generalizing cs with
  | none => rw [List.append_nil]
  | @slash rest _ ih =>
      have hstep : cs ++ '/' :: rest = (cs ++ '/' :: []) ++ rest := by simp
      rw [hstep, ih, names_append]
      exact List.append_nil _
  | @dot rest _ ih =>
      have hstep : cs ++ '/' :: '.' :: rest = (cs ++ '/' :: ['.']) ++ rest := by simp
      rw [hstep, ih, names_append]
      exact List.append_nil _

/-! ## The last name -/

theorem isIdle_iff {part : List Char} : isIdle part = true ↔ part = [] ∨ part = ['.'] := by
  simp [isIdle]

theorem getLast?_names_of_isLastName {cs name : List Char} (h : IsLastName cs name) :
    (names cs).getLast? = some name := by
  obtain ⟨hne, hdot, hslash, front, back, rfl, hfront, hback⟩ := h
  have hidle : ¬isIdle name = true := by
    rw [isIdle_iff, not_or]
    exact ⟨hne, hdot⟩
  have hname : names name = [name] := by rw [names_of_not_mem hslash, if_neg hidle]
  rw [names_idleEnd hback]
  rcases hfront with rfl | ⟨folder, rfl⟩
  · rw [List.nil_append, hname, List.getLast?_singleton]
  · rw [List.append_assoc, List.singleton_append, names_append, hname, List.getLast?_concat]

theorem isIdleEnd_of_idle {parts : List (List Char)} (h : ∀ part ∈ parts, isIdle part = true) :
    IsIdleEnd (parts.flatMap ('/' :: ·)) := by
  induction parts with
  | nil => exact .none
  | cons part parts ih =>
      rw [List.forall_mem_cons] at h
      rw [List.flatMap_cons]
      rcases isIdle_iff.1 h.1 with rfl | rfl
      · exact .slash (ih h.2)
      · exact .dot (ih h.2)

theorem glue_cons (part : List Char) (parts : List (List Char)) :
    Text.glue '/' (part :: parts) = part ++ parts.flatMap ('/' :: ·) := by
  induction parts generalizing part with
  | nil => simp [Text.glue, List.intercalate]
  | cons next parts ih =>
      have hstep : Text.glue '/' (part :: next :: parts) =
          part ++ '/' :: Text.glue '/' (next :: parts) := by
        simp [Text.glue, List.intercalate]
      rw [hstep, ih, List.flatMap_cons, List.cons_append]

theorem exists_front (before after : List (List Char)) (part : List Char) :
    ∃ front, Text.glue '/' (before ++ part :: after) =
        front ++ part ++ after.flatMap ('/' :: ·) ∧
      (front = [] ∨ ∃ folder, front = folder ++ ['/']) := by
  cases before with
  | nil => exact ⟨[], glue_cons part after, .inl rfl⟩
  | cons first before =>
      refine ⟨first ++ before.flatMap ('/' :: ·) ++ ['/'], ?_, .inr ⟨_, rfl⟩⟩
      rw [List.cons_append, glue_cons, List.flatMap_append, List.flatMap_cons]
      simp

theorem getLast?_names_iff {cs name : List Char} :
    (names cs).getLast? = some name ↔ IsLastName cs name := by
  refine ⟨fun h => ?_, getLast?_names_of_isLastName⟩
  rw [names, List.getLast?_filter, List.find?_eq_some_iff_append] at h
  obtain ⟨hkept, after, before, hparts, hafter⟩ := h
  have hcut : Text.cut '/' cs = before.reverse ++ name :: after.reverse := by
    rw [← List.reverse_reverse (Text.cut '/' cs), hparts]
    simp
  have hidle : ¬(name = [] ∨ name = ['.']) := by
    rw [← isIdle_iff]
    simpa using hkept
  rw [not_or] at hidle
  have hmem : name ∈ Text.cut '/' cs := by
    rw [hcut]
    exact List.mem_append_right _ List.mem_cons_self
  obtain ⟨front, htext, hfront⟩ := exists_front before.reverse after.reverse name
  refine ⟨hidle.1, hidle.2, Text.not_mem_of_mem_cut hmem, front,
    after.reverse.flatMap ('/' :: ·), ?_, hfront, ?_⟩
  · rw [← htext, ← hcut, Text.glue_cut]
  · apply isIdleEnd_of_idle
    intro part hpart
    simpa using hafter part (List.mem_reverse.1 hpart)

/-! ## File names -/

theorem names_start (cs : List Char) : names (start cs).2 = names cs := by
  fun_cases start cs with
  | case1 rest => exact (names_append [] rest).symm
  | case2 => rfl
  | case3 rest =>
      have hlong := names_append ['.'] rest
      have hshort := names_append [] rest
      rw [List.nil_append] at hshort
      exact hshort.trans hlong.symm
  | case4 cs hroot hdot hcurrent => rfl

theorem fileName?_eq (p : Path) : p.fileName? =
    ((names p.text.toList).getLast?.filter (· ≠ ['.', '.'])).map String.ofList := by
  have hlast : (partsFromEnd (start p.text.toList).2).head? = (names p.text.toList).getLast? := by
    rw [head?_partsFromEnd, ← names, names_start]
  rw [← hlast, fileName?]
  cases partsFromEnd (start p.text.toList).2 with
  | nil => rfl
  | cons part parts =>
      rw [List.head?_cons, Option.filter_some]
      by_cases hup : part = ['.', '.'] <;> simp [hup]

/-- The file name of a path is its last name, unless that leads to the folder above. -/
theorem fileName?_eq_some_iff {p : Path} {name : String} :
    p.fileName? = some name ↔ IsLastName p.text.toList name.toList ∧ name ≠ ".." := by
  rw [fileName?_eq, Option.map_eq_some_iff, ← getLast?_names_iff]
  constructor
  · rintro ⟨part, hpart, rfl⟩
    obtain ⟨hlast, hup⟩ := Option.filter_eq_some_iff.1 hpart
    rw [String.toList_ofList]
    refine ⟨hlast, ?_⟩
    rintro heq
    have hdots : part = ['.', '.'] := by
      rw [← String.toList_ofList (l := part), heq]
      rfl
    simp [hdots] at hup
  · rintro ⟨hlast, hup⟩
    refine ⟨name.toList, Option.filter_eq_some_iff.2 ⟨hlast, ?_⟩, String.ofList_toList⟩
    rw [decide_eq_true_eq]
    intro heq
    exact hup (String.toList_inj.1 heq)

/-- Slashes, and slashes with a dot, at the end of a path leave its file name as it is. -/
theorem fileName?_idleEnd (p : Path) {back : String} (h : IsIdleEnd back.toList) :
    (Path.mk (p.text ++ back)).fileName? = p.fileName? := by
  rw [fileName?_eq, fileName?_eq, String.toList_append, names_idleEnd h]

theorem fileName?_below (folder : String) {rest : String} {name : List Char}
    (h : IsLastName rest.toList name) :
    (Path.mk (folder ++ "/" ++ rest)).fileName? = (Path.mk rest).fileName? := by
  have htext : (folder ++ "/" ++ rest).toList = folder.toList ++ '/' :: rest.toList := by
    simp [String.toList_append]
  rw [fileName?_eq, fileName?_eq, htext, names_append, List.getLast?_append,
    getLast?_names_iff.2 h, Option.some_or]

/-! ## Extensions -/

theorem extensionOf_append {before after : List Char} (h : '.' ∉ after) :
    extensionOf (before ++ '.' :: after) = if before = [] then none else some after := by
  have hcut : (Text.cut '.' (before ++ '.' :: after)).reverse =
      after :: (Text.cut '.' before).reverse := by
    rw [Text.cut_append, Text.cut_of_not_mem h, List.reverse_append, List.reverse_singleton,
      List.singleton_append]
  obtain ⟨first, others, hbefore⟩ : ∃ first others,
      (Text.cut '.' before).reverse = first :: others :=
    List.exists_cons_of_ne_nil (by simpa using Text.cut_ne_nil '.' before)
  have hempty : (others = [] ∧ first = []) ↔ before = [] := by
    constructor
    · rintro ⟨rfl, rfl⟩
      rw [← Text.glue_cut '.' before, List.reverse_eq_iff.1 hbefore]
      rfl
    · rintro rfl
      cases hbefore
      exact ⟨rfl, rfl⟩
  rw [extensionOf, hcut, hbefore]
  by_cases hnone : before = []
  · simp [hempty.2 hnone, hnone]
  · have hsome : ¬(others = [] ∧ first = []) := fun h => hnone (hempty.1 h)
    simp [hsome, hnone]

theorem exists_lastDot {cs : List Char} (h : '.' ∈ cs) :
    ∃ before after, cs = before ++ '.' :: after ∧ '.' ∉ after := by
  obtain ⟨after, before, hcs, hafter⟩ := List.eq_append_cons_of_mem (List.mem_reverse.2 h)
  refine ⟨before.reverse, after.reverse, ?_, by simpa using hafter⟩
  rw [← List.reverse_reverse cs, hcs]
  simp

theorem extensionOf_eq_some_iff {name after : List Char} :
    extensionOf name = some after ↔
      ∃ before, name = before ++ '.' :: after ∧ '.' ∉ after ∧ before ≠ [] := by
  constructor
  · intro h
    by_cases hdot : '.' ∈ name
    · obtain ⟨before, last, rfl, hlast⟩ := exists_lastDot hdot
      rw [extensionOf_append hlast] at h
      split at h
      · cases h
      · cases h
        exact ⟨before, rfl, hlast, ‹_›⟩
    · rw [extensionOf, Text.cut_of_not_mem hdot] at h
      cases h
  · rintro ⟨before, rfl, hafter, hbefore⟩
    rw [extensionOf_append hafter, if_neg hbefore]

theorem extension?_eq_some_iff {p : Path} {extension : String} :
    p.extension? = some extension ↔ ∃ before : String,
      p.fileName? = some (before ++ "." ++ extension) ∧ '.' ∉ extension.toList ∧ before ≠ "" := by
  rw [extension?, Option.bind_eq_some_iff]
  constructor
  · rintro ⟨name, hname, hextension⟩
    obtain ⟨after, hafter, rfl⟩ := Option.map_eq_some_iff.1 hextension
    obtain ⟨before, hsplit, hdot, hbefore⟩ := extensionOf_eq_some_iff.1 hafter
    refine ⟨String.ofList before, ?_, by rwa [String.toList_ofList], by simpa using hbefore⟩
    rw [hname, Option.some.injEq, ← String.toList_inj, hsplit]
    simp [String.toList_append]
  · rintro ⟨before, hname, hdot, hbefore⟩
    refine ⟨_, hname, Option.map_eq_some_iff.2 ⟨extension.toList, ?_, String.ofList_toList⟩⟩
    refine extensionOf_eq_some_iff.2 ⟨before.toList, ?_, hdot, by simpa using hbefore⟩
    simp [String.toList_append]

end Path

end Ingest
