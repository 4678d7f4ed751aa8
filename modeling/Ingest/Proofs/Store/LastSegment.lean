import Ingest.Store
/-!
# What a URL is said to be a version of

The version is looked for in the text of a URL as it stands, between its slashes and before its
query.  Where the path has a segment at all, the last one is found.  Where it has none, the search
goes on past the root, and the authority is taken for the version.
-/

namespace Ingest

/-! ## The last segment -/

def IsLastSegment (path segment : String) : Prop :=
  segment ≠ "" ∧ '/' ∉ segment.toList ∧
    ∃ before n, path.toList = before ++ '/' :: (segment.toList ++ List.replicate n '/')

/-- The answer is the last segment of a path, or nothing if the path has no segment. -/
def IsVersionIn (path : String) : Option String → Prop
  | some segment => IsLastSegment path segment
  | none => ∀ c ∈ path.toList, c = '/'

namespace Text

theorem cut_trailing {part : List Char} (hpart : '/' ∉ part) (n : Nat) :
    cut '/' (part ++ List.replicate n '/') = part :: List.replicate n [] := by
  induction n generalizing part with
  | zero => rw [List.replicate_zero, List.append_nil, cut_of_not_mem hpart, List.replicate_zero]
  | succ n ih =>
      have hrest : cut '/' (List.replicate n '/') = [] :: List.replicate n [] := by
        have h := @ih [] List.not_mem_nil
        rwa [List.nil_append] at h
      rw [List.replicate_succ, cut_append, cut_of_not_mem hpart, hrest, List.replicate_succ]
      rfl

def lastPart? (cs : List Char) : Option (List Char) := (cut '/' cs).reverse.find? (!·.isEmpty)

theorem lastPart?_append (cs ds : List Char) :
    lastPart? (cs ++ '/' :: ds) = (lastPart? ds).or (lastPart? cs) := by
  rw [lastPart?, cut_append, List.reverse_append, List.find?_append]
  rfl

theorem lastPart?_slash (cs : List Char) : lastPart? ('/' :: cs) = lastPart? cs := by
  have h := lastPart?_append [] cs
  rw [List.nil_append] at h
  rw [h]
  cases lastPart? cs <;> rfl

theorem lastPart?_trailing {part : List Char} (hpart : '/' ∉ part) (n : Nat) :
    lastPart? (part ++ List.replicate n '/') = if part = [] then none else some part := by
  have hempty : (List.replicate n ([] : List Char)).find? (!·.isEmpty) = none := by
    rw [List.find?_eq_none]
    intro x hx
    rw [List.eq_of_mem_replicate hx]
    decide
  rw [lastPart?, cut_trailing hpart, List.reverse_cons, List.reverse_replicate,
    List.find?_append, hempty]
  cases part <;> rfl

theorem lastPart?_slashes {cs : List Char} (h : ∀ c ∈ cs, c = '/') : lastPart? cs = none := by
  have hcs : cs = [] ++ List.replicate cs.length '/' := List.eq_replicate_of_mem h
  rw [hcs, lastPart?_trailing List.not_mem_nil, if_pos rfl]

/-- A text that is not made of slashes alone has a last part, at its start or behind a slash. -/
theorem exists_last (cs : List Char) :
    (∀ c ∈ cs, c = '/') ∨ ∃ before part n, cs = before ++ (part ++ List.replicate n '/') ∧
      part ≠ [] ∧ '/' ∉ part ∧ (before = [] ∨ ∃ front, before = front ++ ['/']) := by
  induction cs with
  | nil => exact .inl nofun
  | cons c cs ih =>
      rcases ih with hall | ⟨before, part, n, hcs, hne, hpart, hbefore⟩
      · by_cases hc : c = '/'
        · exact .inl (List.forall_mem_cons.2 ⟨hc, hall⟩)
        · refine .inr ⟨[], [c], cs.length, ?_, List.cons_ne_nil c [], ?_, .inl rfl⟩
          · exact congrArg (c :: ·) (List.eq_replicate_of_mem hall)
          · rwa [List.mem_singleton, eq_comm]
      · right
        by_cases hstart : before = [] ∧ c ≠ '/'
        · obtain ⟨rfl, hc⟩ := hstart
          refine ⟨[], c :: part, n, by rw [hcs]; rfl, List.cons_ne_nil c part, ?_, .inl rfl⟩
          rw [List.mem_cons, not_or]
          exact ⟨Ne.symm hc, hpart⟩
        · refine ⟨c :: before, part, n, by rw [hcs]; rfl, hne, hpart, .inr ?_⟩
          rcases hbefore with rfl | ⟨front, rfl⟩
          · have hc : c = '/' := Decidable.byContradiction fun hc => hstart ⟨rfl, hc⟩
            exact ⟨[], by rw [hc]; rfl⟩
          · exact ⟨c :: front, rfl⟩

end Text

open Text

theorem IsLastSegment.lastPart?_eq {path segment : String} (h : IsLastSegment path segment) :
    lastPart? path.toList = some segment.toList := by
  obtain ⟨hne, hslash, before, n, hpath⟩ := h
  have hsegment : segment.toList ≠ [] := by simpa using hne
  rw [hpath, lastPart?_append, lastPart?_trailing hslash, if_neg hsegment]
  rfl

theorem IsLastSegment.exists_ne_slash {path segment : String} (h : IsLastSegment path segment) :
    ∃ c ∈ path.toList, c ≠ '/' := by
  obtain ⟨hne, hslash, before, n, hpath⟩ := h
  obtain ⟨c, cs, hcs⟩ := List.exists_cons_of_ne_nil (by simpa using hne : segment.toList ≠ [])
  refine ⟨c, ?_, ?_⟩
  · rw [hpath, hcs]
    simp
  · rintro rfl
    rw [hcs] at hslash
    exact hslash List.mem_cons_self

theorem exists_isLastSegment {path : String} (hroot : ∀ c ∈ path.toList.head?, c = '/')
    (h : ∃ c ∈ path.toList, c ≠ '/') : ∃ segment, IsLastSegment path segment := by
  obtain ⟨c, hc, hne⟩ := h
  rcases exists_last path.toList with hall | ⟨before, part, n, hpath, hpart, hslash, hbefore⟩
  · exact absurd (hall c hc) hne
  · refine ⟨String.ofList part, by simpa using hpart, by rwa [String.toList_ofList], ?_⟩
    rw [String.toList_ofList]
    rcases hbefore with rfl | ⟨front, rfl⟩
    · -- The first character would be the slash of the root.
      obtain ⟨d, ds, rfl⟩ := List.exists_cons_of_ne_nil hpart
      rw [hpath] at hroot
      have hd : d = '/' := hroot d rfl
      exact absurd (hd ▸ List.mem_cons_self) hslash
    · exact ⟨front, n, by rw [hpath, List.append_assoc]; rfl⟩

/-! ## Texts of URLs -/

def isPartEnd (c : Char) : Bool := c = '/' || c = '?' || c = '#'

/-- The text of a URL in its parts: a scheme and an authority, a path from the root, if there is
one, and what a query or a fragment begins. -/
structure UrlText where
  scheme : String
  authority : String
  path : String
  rest : String
  scheme_ne : scheme ≠ ""
  scheme_plain : ∀ c ∈ scheme.toList, isPartEnd c = false
  authority_ne : authority ≠ ""
  authority_plain : ∀ c ∈ authority.toList, isPartEnd c = false
  path_rooted : ∀ c ∈ path.toList.head?, c = '/'
  path_unmarked : ∀ c ∈ path.toList, c ≠ '?' ∧ c ≠ '#'
  rest_marked : ∀ c ∈ rest.toList.head?, c = '?' ∨ c = '#'

namespace UrlText

variable (t : UrlText)

def text : String := t.scheme ++ "://" ++ t.authority ++ t.path ++ t.rest

def front : List Char :=
  (t.scheme.toList ++ [':']) ++ '/' :: ([] ++ '/' :: (t.authority.toList ++ t.path.toList))

theorem toList_text : t.text.toList = t.front ++ t.rest.toList := by
  simp [text, front, String.toList_append]

theorem not_mark_of_not_end {c : Char} (h : isPartEnd c = false) : c ≠ '?' ∧ c ≠ '#' := by
  simp only [isPartEnd, Bool.or_eq_false_iff, decide_eq_false_iff_not] at h
  exact ⟨h.1.2, h.2⟩

theorem slash_not_mem {s : List Char} (h : ∀ c ∈ s, isPartEnd c = false) : '/' ∉ s := by
  intro hc
  exact absurd (h '/' hc) (by decide)

theorem takeWhile_text :
    (t.text.toList.takeWhile fun c => c ≠ '?' && c ≠ '#') = t.front := by
  have hfront : ∀ c ∈ t.front, (decide (c ≠ '?') && decide (c ≠ '#')) = true := by
    intro c hc
    have hmark : c ≠ '?' ∧ c ≠ '#' := by
      simp only [front, List.nil_append, List.mem_append, List.mem_cons, List.not_mem_nil,
        or_false] at hc
      rcases hc with (hc | rfl) | rfl | rfl | hc | hc
      · exact not_mark_of_not_end (t.scheme_plain c hc)
      · decide
      · decide
      · decide
      · exact not_mark_of_not_end (t.authority_plain c hc)
      · exact t.path_unmarked c hc
    simpa using hmark
  have hrest : (t.rest.toList.takeWhile fun c => c ≠ '?' && c ≠ '#') = [] := by
    have hmarked := t.rest_marked
    cases h : t.rest.toList with
    | nil => rfl
    | cons c cs =>
        rw [h] at hmarked
        rcases hmarked c rfl with rfl | rfl <;> rfl
  rw [toList_text, List.takeWhile_append_of_pos hfront, hrest, List.append_nil]

/-- What is found is the last segment of the path or, behind it, the authority. -/
theorem versionOfUrl?_eq :
    versionOfUrl? t.text =
      some (((lastPart? t.path.toList).map String.ofList).getD t.authority) := by
  have hauthority : t.authority.toList ≠ [] := by simpa using t.authority_ne
  have hplace : lastPart? (t.authority.toList ++ t.path.toList) =
      some ((lastPart? t.path.toList).getD t.authority.toList) := by
    have hself : lastPart? t.authority.toList = some t.authority.toList := by
      have h := lastPart?_trailing (slash_not_mem t.authority_plain) 0
      rwa [if_neg hauthority, List.replicate_zero, List.append_nil] at h
    have hrooted := t.path_rooted
    cases hpath : t.path.toList with
    | nil => rw [List.append_nil, hself]; rfl
    | cons c cs =>
        rw [hpath] at hrooted
        obtain rfl : c = '/' := hrooted c rfl
        rw [lastPart?_append, hself, lastPart?_slash]
        cases lastPart? cs <;> rfl
  have hfind : versionOfUrl? t.text = (lastPart? t.front).map String.ofList := by
    rw [versionOfUrl?, takeWhile_text]
    rfl
  rw [hfind, front, lastPart?_append, lastPart?_append, hplace]
  cases lastPart? t.path.toList with
  | none => simp
  | some part => rfl

end UrlText

/-- The version of a URL is the last segment of its path, and none if the path has none, exactly if
the path has a segment; if not, the authority is given for it. -/
theorem versionOfUrl?_isVersionIn_iff (t : UrlText) :
    (IsVersionIn t.path (versionOfUrl? t.text) ↔ ∃ c ∈ t.path.toList, c ≠ '/') ∧
      (IsVersionIn t.path (versionOfUrl? t.text) ∨ versionOfUrl? t.text = some t.authority) := by
  have hversion := t.versionOfUrl?_eq
  by_cases hpath : ∃ c ∈ t.path.toList, c ≠ '/'
  · obtain ⟨segment, hsegment⟩ := exists_isLastSegment t.path_rooted hpath
    have hfound : versionOfUrl? t.text = some segment := by
      rw [hversion, hsegment.lastPart?_eq]
      simp
    have hanswer : IsVersionIn t.path (versionOfUrl? t.text) := by
      rw [hfound]
      exact hsegment
    exact ⟨iff_of_true hanswer hpath, .inl hanswer⟩
  · have hslashes : ∀ c ∈ t.path.toList, c = '/' := by
      intro c hc
      apply Decidable.byContradiction
      intro hne
      exact hpath ⟨c, hc, hne⟩
    have hfound : versionOfUrl? t.text = some t.authority := by
      rw [hversion, lastPart?_slashes hslashes]
      rfl
    refine ⟨iff_of_false ?_ hpath, .inr hfound⟩
    rw [hfound]
    -- The authority is no segment of a path that has slashes alone.
    intro hsegment
    exact hpath (IsLastSegment.exists_ne_slash hsegment)

theorem plain_of_any {text : String} (h : text.toList.any isPartEnd = false) :
    ∀ c ∈ text.toList, isPartEnd c = false := by
  simpa using h

def rootUrlText : UrlText where
  scheme := "http"
  authority := "h"
  path := "/"
  rest := ""
  scheme_ne := by decide
  scheme_plain := plain_of_any (by decide)
  authority_ne := by decide
  authority_plain := plain_of_any (by decide)
  path_rooted := by simp
  path_unmarked := by simp
  rest_marked := by simp

/-- The host is given for the version although the path has no segment. -/
theorem versionOfUrl?_names_host :
    rootUrlText.text = "http://h/" ∧ versionOfUrl? rootUrlText.text = some "h" ∧
      ¬IsVersionIn rootUrlText.path (versionOfUrl? rootUrlText.text) := by
  have hfound : versionOfUrl? rootUrlText.text = some "h" := by decide
  refine ⟨by decide, hfound, ?_⟩
  rw [hfound]
  rintro ⟨-, -, before, n, heq⟩
  have hmem : 'h' ∈ rootUrlText.path.toList := by
    rw [heq]
    simp
  exact absurd hmem (by decide)

end Ingest
