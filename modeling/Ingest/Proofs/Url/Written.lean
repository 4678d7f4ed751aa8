import Ingest.Proofs.Url.Appending
import Ingest.Proofs.Url.Marks
/-!
# Where the query of an address begins

An address goes on from that of a service by segments and pairs, and may lose its user and its
fragment before it is told.  None of this puts a question mark or a hash before the query, so the
query is found behind the first question mark of the address and of its target.
-/

namespace Ingest.Url

/-! ## Parts -/

theorem isUnmarked_partsText {parts : List String} (h : ∀ part ∈ parts, IsUnmarked part) :
    IsUnmarked (Path.partsText parts) := by
  have hslash : IsUnmarked "/" := by decide
  induction parts with
  | nil => decide
  | cons part parts ih =>
      rw [List.forall_mem_cons] at h
      simp only [partsText_cons, isUnmarked_append, hslash, h.1, ih h.2, and_self]

theorem isUnmarked_iff {s : String} : IsUnmarked s ↔ '?' ∉ s.toList ∧ '#' ∉ s.toList := by
  constructor
  · intro h
    exact ⟨fun hmem => absurd (h _ hmem) (by decide), fun hmem => absurd (h _ hmem) (by decide)⟩
  · rintro ⟨hquery, hfragment⟩ c hc
    cases hmark : endsPath c with
    | false => rfl
    | true =>
        simp only [endsPath, Bool.or_eq_true, beq_iff_eq] at hmark
        rcases hmark with rfl | rfl
        · exact absurd hc hquery
        · exact absurd hc hfragment

theorem not_mem_encodePart {scheme : String} {c : Char}
    (hclass : inSegmentClass (isSpecial scheme) c = true) (hsign : c ≠ '%')
    (hdigit : ∀ n < 16, c ≠ Hex.upper n) (part : List Char) :
    c ∉ (encodePart scheme part).toList := by
  intro hc
  rw [encodePart, String.toList_ofList] at hc
  rw [(Percent.mem_of_mem_encode hsign hdigit hc).2] at hclass
  cases hclass

theorem isPart_encodePart (scheme : String) (part : List Char) :
    IsPart (encodePart scheme part) := by
  have hquery : inSegmentClass (isSpecial scheme) '?' = true := by
    simp [inSegmentClass, inPathClass]
  have hfragment : inSegmentClass (isSpecial scheme) '#' = true := by
    simp [inSegmentClass, inPathClass]
  refine ⟨slash_not_mem_encodePart scheme part, isUnmarked_iff.2 ⟨?_, ?_⟩⟩
  · exact not_mem_encodePart hquery (by decide) (by decide) part
  · exact not_mem_encodePart hfragment (by decide) (by decide) part

theorem isPart_pushSegment {scheme : String} (hscheme : scheme ≠ "file") {parts : List String}
    (h : ∀ part ∈ parts, IsPart part) (segment : String) :
    ∀ part ∈ pushSegment scheme parts segment, IsPart part := by
  have hempty : IsPart "" := ⟨by decide, by decide⟩
  have hopen : ∀ part ∈ openSegments parts, IsPart part := by
    unfold openSegments
    split
    · exact nofun
    · exact h
  by_cases hdots : segment = "." ∨ segment = ".."
  · rw [pushSegment_dots hdots]
    exact h
  · rw [not_or] at hdots
    rw [pushSegment_eq hscheme hdots.1 hdots.2, appendPart]
    split
    · have hup : ∀ part ∈ goUp (openSegments parts), IsPart part :=
        fun part hpart => hopen part (mem_of_mem_goUp hpart)
      exact List.forall_mem_append.2 ⟨hup, by simpa using hempty⟩
    · split
      · exact List.forall_mem_append.2 ⟨hopen, by simpa using hempty⟩
      · exact List.forall_mem_append.2 ⟨hopen, by simpa using isPart_encodePart scheme _⟩

theorem isPart_pushSegments {scheme : String} (hscheme : scheme ≠ "file") (segments : List String)
    {parts : List String} (h : ∀ part ∈ parts, IsPart part) :
    ∀ part ∈ segments.foldl (pushSegment scheme) parts, IsPart part := by
  induction segments generalizing parts with
  | nil => exact h
  | cons segment segments ih => exact ih (isPart_pushSegment hscheme h segment)

theorem mem_of_mem_dropEmptyLast {part : String} {parts : List String}
    (h : part ∈ dropEmptyLast parts) : part ∈ parts := by
  unfold dropEmptyLast at h
  split at h
  · exact List.dropLast_subset parts h
  · exact h

/-! ## Addresses -/

/-- An address of the web in which no query begins too early. -/
structure IsClean (u : Url) : Prop where
  isHttp : u.isHttp = true
  authority : ∃ a, u.authority = some a ∧ IsUnmarked a.userText ∧ IsUnmarked a.hostText
  path : ∃ parts, u.path = .segments parts ∧ ∀ part ∈ parts, IsPart part

theorem isClean_ofText {s : String} {u : Url} (h : ofText s = .ok u) (hhttp : u.isHttp = true) :
    u.IsClean := by
  obtain ⟨parts, hpath⟩ := (isWeb_ofText h hhttp).path
  have hparts := isPart_of_ofText h hhttp
  rw [hpath] at hparts
  obtain ⟨cs, hread⟩ := readAfterSlashes_of_ofText h hhttp
  obtain ⟨⟨a, left⟩, hauthority, hassembled⟩ := bind_eq_ok_iff.1 hread
  obtain ⟨huser, hhost⟩ := isUnmarked_of_readAuthority (isSpecial_of_isHttp hhttp) hauthority
  have hsome : u.authority = some a := by
    rw [← Except.ok.inj hassembled]
    rfl
  exact ⟨hhttp, ⟨a, hsome, huser, hhost⟩, parts, hpath, hparts⟩

namespace IsClean

variable {u : Url}

theorem withoutUser (h : u.IsClean) : u.withoutUser.IsClean := by
  obtain ⟨hhttp, ⟨a, ha, -, hhost⟩, hpath⟩ := h
  refine ⟨hhttp, ⟨{ a with username := "", password := none }, ?_, ?_, hhost⟩, hpath⟩
  · rw [Url.withoutUser, ha]
    rfl
  · exact (by decide : IsUnmarked "")

theorem join (h : u.IsClean) (segments : List String) : (u.join segments).IsClean := by
  obtain ⟨hhttp, hauthority, parts, hpath, hparts⟩ := h
  refine ⟨hhttp, hauthority, _, path_join hpath segments, ?_⟩
  apply isPart_pushSegments (scheme_ne_file hhttp)
  intro part hpart
  rw [hpath] at hpart
  exact hparts part (mem_of_mem_dropEmptyLast hpart)

theorem withPairs (h : u.IsClean) (pairs : List (String × String)) : (u.withPairs pairs).IsClean :=
  ⟨h.isHttp, h.authority, h.path⟩

theorem isUnmarked_pathText (h : u.IsClean) : IsUnmarked u.path.text := by
  obtain ⟨parts, hpath, hparts⟩ := h.path
  rw [hpath]
  exact isUnmarked_partsText fun part hpart => (hparts part hpart).2

theorem isUnmarked_front (h : u.IsClean) :
    IsUnmarked (u.scheme ++ ":" ++ u.authorityText ++ u.path.text) := by
  obtain ⟨a, ha, huser, hhost⟩ := h.authority
  have hscheme : IsUnmarked u.scheme := by
    have hhttp := h.isHttp
    simp only [Url.isHttp, Bool.or_eq_true, decide_eq_true_eq] at hhttp
    rcases hhttp with hhttp | hhttp <;> rw [hhttp] <;> decide
  have hcolon : IsUnmarked ":" := by decide
  have hslashes : IsUnmarked "//" := by decide
  have htext : u.authorityText = "//" ++ a.userText ++ a.hostText := by
    rw [authorityText, ha]
  rw [htext]
  simp only [isUnmarked_append, hscheme, hcolon, hslashes, huser, hhost, h.isUnmarked_pathText,
    and_self]

end IsClean

/-! ## Queries -/

/-- The query in an address or a target without a fragment: what follows the first question
mark. -/
def queryIn (s : String) : String := String.ofList ((s.toList.dropWhile (· ≠ '?')).drop 1)

theorem queryIn_marked {front : String} (h : IsUnmarked front) (query : Option String) :
    queryIn (front ++ marked "?" query) = query.getD "" := by
  have hfront : ∀ c ∈ front.toList, (decide (c ≠ '?')) = true := by
    intro c hc
    rw [decide_eq_true_eq]
    rintro rfl
    exact (isUnmarked_iff.1 h).1 hc
  rw [queryIn, String.toList_append, List.dropWhile_append_of_pos hfront]
  cases query with
  | none => rfl
  | some q => simp [marked, String.toList_append]

theorem queryIn_target {u : Url} (h : u.IsClean) : queryIn u.target = u.query.getD "" :=
  queryIn_marked h.isUnmarked_pathText u.query

theorem queryIn_text {u : Url} (h : u.IsClean) :
    queryIn u.withoutFragment.text = u.query.getD "" := by
  have htext : u.withoutFragment.text =
      u.scheme ++ ":" ++ u.authorityText ++ u.path.text ++ marked "?" u.query := by
    have hnone : marked "#" u.withoutFragment.fragment = "" := rfl
    rw [text, hnone, String.append_empty, target, ← String.append_assoc]
    rfl
  rw [htext, queryIn_marked h.isUnmarked_front]

end Ingest.Url
