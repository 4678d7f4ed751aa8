import Ingest.Proofs.Text.Percent
import Ingest.Url.Segments
/-!
# Segments appended to a path

A segment without dots alone, tabs and line breaks is appended as one part of the path, and the
part is read back as the segment.  Any other segment is lost or changed on the way: either the path
does not get longer by one part, or the new part is read as another text.  So the parts below the
old path are the segments that were appended exactly if all of these are plain.
-/

namespace Ingest.Url

def IsPlain (segment : String) : Prop :=
  segment ≠ "." ∧ segment ≠ ".." ∧ segment.toList.any isPassedOver = false

instance : DecidablePred IsPlain := fun _ => inferInstanceAs (Decidable (_ ∧ _ ∧ _))

def decoded? (part : String) : Option String := Utf8.decode? (Percent.decode part.toList)

/-- The parts of a path that appended ones come after; an empty last part makes way. -/
def root (u : Url) : List String := openSegments (dropEmptyLast u.path.parts)

/-! ## Parts -/

theorem decoded?_empty : decoded? "" = some "" := Utf8.decode?_encode ""

theorem decoded?_encodePart (scheme : String) (part : List Char) :
    decoded? (encodePart scheme part) = some (String.ofList part) := by
  have hpercent : inSegmentClass (isSpecial scheme) '%' = true := by simp [inSegmentClass]
  rw [decoded?, encodePart, String.toList_ofList, Percent.text_encode hpercent]

theorem decoded?_encodePart_toList (scheme segment : String) :
    decoded? (encodePart scheme segment.toList) = some segment := by
  rw [decoded?_encodePart, String.ofList_toList]

theorem decoded?_encodeParts (scheme : String) (segments : List String) :
    (segments.map fun segment => encodePart scheme segment.toList).map decoded? =
      segments.map some := by
  have hread : (decoded? ∘ fun segment : String => encodePart scheme segment.toList) = some := by
    funext segment
    rw [Function.comp_apply, decoded?_encodePart_toList]
  rw [List.map_map, hread]

theorem slash_not_mem_encodePart (scheme : String) (part : List Char) :
    '/' ∉ (encodePart scheme part).toList := by
  have hslash : inSegmentClass (isSpecial scheme) '/' = true := by simp [inSegmentClass]
  rw [encodePart, String.toList_ofList]
  exact Percent.slash_not_mem_encode hslash part

theorem encodePart_ne_empty {scheme segment : String} (h : segment ≠ "") :
    encodePart scheme segment.toList ≠ "" := by
  intro hempty
  have hdecoded := decoded?_encodePart_toList scheme segment
  rw [hempty, decoded?_empty] at hdecoded
  exact h (Option.some.inj hdecoded).symm

/-! ## The segments to append to -/

theorem openSegments_of_ne {parts : List String} (h : parts ≠ [""]) : openSegments parts = parts :=
  if_neg h

theorem length_openSegments_le (parts : List String) :
    (openSegments parts).length ≤ parts.length := by
  unfold openSegments
  split <;> simp

theorem length_goUp_le (parts : List String) : (goUp parts).length ≤ parts.length := by
  unfold goUp
  split
  · split <;> simp
  · simp

theorem goUp_eq_of_length {parts : List String} (h : (goUp parts).length = parts.length) :
    goUp parts = parts := by
  unfold goUp at h ⊢
  cases hlast : parts.getLast? with
  | none => exact (List.getLast?_eq_none_iff.1 hlast).symm
  | some part =>
      rw [hlast] at h
      dsimp only at h ⊢
      by_cases hdrive : startsWithDrive part.toList = true
      · rw [if_pos hdrive]
      · rw [if_neg hdrive, List.length_dropLast] at h
        have hne : parts ≠ [] := by
          rintro rfl
          cases hlast
        have hpos := List.length_pos_iff.2 hne
        omega

/-! ## Appending one segment -/

section Pushing

variable {scheme : String}

/-- Outside file paths a segment counts without its tabs and line breaks. -/
theorem pushSegment_eq (hscheme : scheme ≠ "file") {segment : String} (hdot : segment ≠ ".")
    (hdots : segment ≠ "..") (parts : List String) :
    pushSegment scheme parts segment =
      appendPart scheme (openSegments parts) (segment.toList.filter (!isPassedOver ·)) := by
  simp [pushSegment, hscheme, hdot, hdots]

theorem pushSegment_dots {segment : String} (h : segment = "." ∨ segment = "..")
    (parts : List String) : pushSegment scheme parts segment = parts := by
  rcases h with rfl | rfl <;> simp [pushSegment]

theorem toList_ne_of_ne {segment : String} {cs : List Char} (h : segment ≠ String.ofList cs) :
    segment.toList ≠ cs := by
  rintro rfl
  exact h (String.ofList_toList).symm

theorem pushSegment_plain (hscheme : scheme ≠ "file") {segment : String} (h : IsPlain segment)
    (parts : List String) :
    pushSegment scheme parts segment =
      openSegments parts ++ [encodePart scheme segment.toList] := by
  obtain ⟨hdot, hdots, hbreak⟩ := h
  have hfilter : segment.toList.filter (!isPassedOver ·) = segment.toList :=
    List.filter_eq_self.2 fun c hc => by simpa using List.any_eq_false.1 hbreak c hc
  have hdot' : segment.toList ≠ ['.'] := toList_ne_of_ne hdot
  have hdots' : segment.toList ≠ ['.', '.'] := toList_ne_of_ne hdots
  rw [pushSegment_eq hscheme hdot hdots, hfilter, appendPart, if_neg hdots', if_neg hdot']

/-- What is appended is one part, behind the parts before it or, after dots, behind fewer. -/
theorem appendPart_shape (before : List String) (shown : List Char) :
    ∃ kept part, appendPart scheme before shown = kept ++ [part] ∧ kept.length ≤ before.length ∧
      (kept.length = before.length → kept = before) ∧
      ∀ segment, decoded? part = some segment →
        segment.toList = shown ∨ segment = "" ∧ shown ≠ [] := by
  have hempty : ∀ segment, decoded? "" = some segment → segment = "" := by
    intro segment h
    rw [decoded?_empty] at h
    exact (Option.some.inj h).symm
  unfold appendPart
  by_cases hdots : shown = ['.', '.']
  · refine ⟨goUp before, "", if_pos hdots, length_goUp_le before, goUp_eq_of_length, ?_⟩
    exact fun segment h => .inr ⟨hempty segment h, by simp [hdots]⟩
  · rw [if_neg hdots]
    by_cases hdot : shown = ['.']
    · refine ⟨before, "", if_pos hdot, Nat.le_refl _, fun _ => rfl, ?_⟩
      exact fun segment h => .inr ⟨hempty segment h, by simp [hdot]⟩
    · refine ⟨before, encodePart scheme shown, if_neg hdot, Nat.le_refl _, fun _ => rfl, ?_⟩
      intro segment h
      rw [decoded?_encodePart] at h
      rw [← Option.some.inj h, String.toList_ofList]
      exact .inl rfl

theorem length_pushSegment_le (hscheme : scheme ≠ "file") (parts : List String)
    (segment : String) :
    (openSegments (pushSegment scheme parts segment)).length ≤ (openSegments parts).length + 1 := by
  by_cases h : segment = "." ∨ segment = ".."
  · rw [pushSegment_dots h]
    omega
  · rw [not_or] at h
    obtain ⟨kept, part, hshape, hkept, -, -⟩ :=
      appendPart_shape (openSegments parts) (segment.toList.filter (!isPassedOver ·))
    rw [pushSegment_eq hscheme h.1 h.2, hshape]
    have hopen := length_openSegments_le (kept ++ [part])
    rw [List.length_append, List.length_singleton] at hopen
    omega

/-- A segment that makes the path longer by one part either is plain or is read back as something
else. -/
theorem pushSegment_grown (hscheme : scheme ≠ "file") {parts : List String} {segment : String}
    (h : (openSegments (pushSegment scheme parts segment)).length =
      (openSegments parts).length + 1) :
    ∃ part, openSegments (pushSegment scheme parts segment) = openSegments parts ++ [part] ∧
      (decoded? part = some segment → IsPlain segment) := by
  by_cases hdots : segment = "." ∨ segment = ".."
  · rw [pushSegment_dots hdots] at h
    omega
  · rw [not_or] at hdots
    obtain ⟨kept, part, hshape, -, hkept, hdecoded⟩ :=
      appendPart_shape (openSegments parts) (segment.toList.filter (!isPassedOver ·))
    rw [pushSegment_eq hscheme hdots.1 hdots.2, hshape] at h ⊢
    have hne : kept ++ [part] ≠ [""] := by
      intro heq
      rw [heq, openSegments, if_pos rfl] at h
      cases h
    rw [openSegments_of_ne hne, List.length_append, List.length_singleton] at h
    refine ⟨part, ?_, fun hpart => ⟨hdots.1, hdots.2, ?_⟩⟩
    · rw [openSegments_of_ne hne, hkept (by omega)]
    · rcases hdecoded segment hpart with hsame | ⟨rfl, hshown⟩
      · have hall := List.filter_eq_self.1 hsame.symm
        exact List.any_eq_false.2 fun c hc => by simpa using hall c hc
      · exact absurd rfl hshown

/-! ## Appending segments -/

theorem length_pushSegments_le (hscheme : scheme ≠ "file") (parts segments : List String) :
    (openSegments (segments.foldl (pushSegment scheme) parts)).length ≤
      (openSegments parts).length + segments.length := by
  induction segments generalizing parts with
  | nil => exact Nat.le_refl _
  | cons segment segments ih =>
      have hfirst := length_pushSegment_le hscheme parts segment
      have hrest := ih (pushSegment scheme parts segment)
      rw [List.foldl_cons, List.length_cons]
      omega

theorem pushSegments_plain (hscheme : scheme ≠ "file") {segments : List String}
    (h : ∀ segment ∈ segments, IsPlain segment) {parts : List String} (hne : parts ≠ [])
    (hopen : openSegments parts = parts) :
    segments.foldl (pushSegment scheme) parts =
      parts ++ segments.map fun segment => encodePart scheme segment.toList := by
  induction segments generalizing parts with
  | nil => simp
  | cons segment segments ih =>
      rw [List.forall_mem_cons] at h
      have hpush := pushSegment_plain hscheme h.1 parts
      have hnext : parts ++ [encodePart scheme segment.toList] ≠ [""] := by
        intro heq
        have hlength := congrArg List.length heq
        have hpos := List.length_pos_iff.2 hne
        rw [List.length_append, List.length_singleton, List.length_singleton] at hlength
        omega
      rw [List.foldl_cons, hpush, hopen, ih h.2 (by simp) (openSegments_of_ne hnext)]
      simp

/-- Segments that all make the path longer are plain, unless they are read back as something
else. -/
theorem pushSegments_grown (hscheme : scheme ≠ "file") {segments parts : List String}
    (h : (openSegments (segments.foldl (pushSegment scheme) parts)).length =
      (openSegments parts).length + segments.length) :
    ∃ new, openSegments (segments.foldl (pushSegment scheme) parts) = openSegments parts ++ new ∧
      (new.map decoded? = segments.map some → ∀ segment ∈ segments, IsPlain segment) := by
  induction segments generalizing parts with
  | nil => exact ⟨[], by simp, by simp⟩
  | cons segment segments ih =>
      rw [List.foldl_cons, List.length_cons] at h
      have hfirst := length_pushSegment_le hscheme parts segment
      have hrest := length_pushSegments_le hscheme (pushSegment scheme parts segment) segments
      -- No segment adds more than one part, so none may add less.
      have hone : (openSegments (pushSegment scheme parts segment)).length =
          (openSegments parts).length + 1 := by omega
      have hothers : (openSegments (segments.foldl (pushSegment scheme)
          (pushSegment scheme parts segment))).length =
            (openSegments (pushSegment scheme parts segment)).length + segments.length := by omega
      obtain ⟨part, hpart, hplain⟩ := pushSegment_grown hscheme hone
      obtain ⟨new, hnew, hplains⟩ := ih hothers
      refine ⟨part :: new, ?_, fun hdecoded => ?_⟩
      · rw [List.foldl_cons, hnew, hpart, List.append_assoc, List.singleton_append]
      · rw [List.map_cons, List.map_cons, List.cons.injEq] at hdecoded
        exact List.forall_mem_cons.2 ⟨hplain hdecoded.1, hplains hdecoded.2⟩

end Pushing

/-! ## Paths as text -/

theorem takeWhile_partsText {part : String} (h : '/' ∉ part.toList) (parts : List String) :
    (part.toList ++ (Path.partsText parts).toList).takeWhile (· ≠ '/') = part.toList := by
  have hpart : ∀ c ∈ part.toList, (decide (c ≠ '/')) = true := by
    intro c hc
    rw [decide_eq_true_eq]
    rintro rfl
    exact h hc
  have hparts : (Path.partsText parts).toList.takeWhile (· ≠ '/') = [] := by
    cases parts with
    | nil => rfl
    | cons p ps => simp [Path.partsText, String.toList_append]
  rw [List.takeWhile_append_of_pos hpart, hparts, List.append_nil]

theorem partsText_cons (part : String) (parts : List String) :
    Path.partsText (part :: parts) = "/" ++ (part ++ Path.partsText parts) := by
  rw [Path.partsText, List.map_cons, String.join_cons, String.append_assoc]
  rfl

theorem partsText_append (parts others : List String) :
    Path.partsText (parts ++ others) = Path.partsText parts ++ Path.partsText others := by
  rw [Path.partsText, List.map_append, String.join_append]
  rfl

/-- Parts without slashes are told apart by the text of their path. -/
theorem partsText_injective {parts others : List String} (h : ∀ part ∈ parts, '/' ∉ part.toList)
    (h' : ∀ part ∈ others, '/' ∉ part.toList)
    (htext : Path.partsText parts = Path.partsText others) : parts = others := by
  induction parts generalizing others with
  | nil =>
      cases others with
      | nil => rfl
      | cons other others =>
          have hlist := congrArg String.toList htext
          rw [partsText_cons, String.toList_append] at hlist
          cases hlist
  | cons part parts ih =>
      cases others with
      | nil =>
          have hlist := congrArg String.toList htext
          rw [partsText_cons, String.toList_append] at hlist
          cases hlist
      | cons other others =>
          rw [List.forall_mem_cons] at h h'
          rw [partsText_cons, partsText_cons, String.append_right_inj] at htext
          have hlist := congrArg String.toList htext
          rw [String.toList_append, String.toList_append] at hlist
          have hpart : part = other := by
            rw [← String.toList_inj, ← takeWhile_partsText h.1 parts, hlist,
              takeWhile_partsText h'.1 others]
          rw [hpart, String.append_right_inj] at htext
          rw [hpart, ih h.2 h'.2 htext]

/-! ## Ways -/

/-- The path of a URL goes on from that of another one by the segments of a way, and these can be
read back from it. -/
def Continues (base u : Url) (way : List String) : Prop :=
  ∃ new, u.path.parts = base.root ++ new ∧ new.map decoded? = way.map some

section Joining

variable {u : Url} {parts : List String} {first : String} {rest : List String}

theorem path_join (hpath : u.path = .segments parts) (segments : List String) :
    (u.join segments).path =
      .segments (segments.foldl (pushSegment u.scheme) (dropEmptyLast u.path.parts)) := by
  rw [join, hpath]
  rfl

theorem path_join_text_ne_empty (hpath : u.path = .segments parts) (hscheme : u.scheme ≠ "file")
    (segments : List String) : (u.join (segments ++ [""])).path.text ≠ "" := by
  have hplain : IsPlain "" := by decide
  rw [path_join hpath, List.foldl_append, List.foldl_cons, List.foldl_nil,
    pushSegment_plain hscheme hplain]
  intro hempty
  have hlist := congrArg String.toList hempty
  rw [Path.text, partsText_append, partsText_cons, String.toList_append,
    String.toList_append] at hlist
  simp at hlist

theorem path_join_plain (hpath : u.path = .segments parts) (hscheme : u.scheme ≠ "file")
    (hfirst : first ≠ "") (hplain : ∀ segment ∈ first :: rest, IsPlain segment) :
    (u.join (first :: rest)).path = .segments (u.root ++
      (first :: rest).map fun segment => encodePart u.scheme segment.toList) := by
  rw [List.forall_mem_cons] at hplain
  have hne : u.root ++ [encodePart u.scheme first.toList] ≠ [""] := by
    intro heq
    have hlast := congrArg List.getLast? heq
    rw [List.getLast?_concat] at hlast
    exact encodePart_ne_empty hfirst (Option.some.inj hlast)
  have hpush : pushSegment u.scheme (dropEmptyLast u.path.parts) first =
      u.root ++ [encodePart u.scheme first.toList] := pushSegment_plain hscheme hplain.1 _
  rw [path_join hpath, List.foldl_cons, hpush,
    pushSegments_plain hscheme hplain.2 (by simp) (openSegments_of_ne hne)]
  simp

/-- Only plain segments can be read back from the path that they are appended to. -/
theorem continues_join_iff (hpath : u.path = .segments parts) (hscheme : u.scheme ≠ "file")
    (hfirst : first ≠ "") :
    Continues u (u.join (first :: rest)) (first :: rest) ↔
      ∀ segment ∈ first :: rest, IsPlain segment := by
  constructor
  · rintro ⟨new, hparts, hdecoded⟩
    have hlength : new.length = (first :: rest).length := by
      simpa using congrArg List.length hdecoded
    rw [path_join hpath] at hparts
    change (first :: rest).foldl (pushSegment u.scheme) (dropEmptyLast u.path.parts) =
      u.root ++ new at hparts
    -- The path is not the bare root, whose only part would stand for the first segment.
    have hne : u.root ++ new ≠ [""] := by
      intro heq
      obtain ⟨part, others, rfl⟩ : ∃ part others, new = part :: others := by
        cases new with
        | nil => cases hlength
        | cons part others => exact ⟨part, others, rfl⟩
      have hone : u.root = [] := by
        have hlen := congrArg List.length heq
        rw [List.length_append, List.length_cons, List.length_singleton] at hlen
        exact List.eq_nil_of_length_eq_zero (by omega)
      rw [hone, List.nil_append, List.cons.injEq] at heq
      rw [heq.1, List.map_cons, decoded?_empty, List.map_cons, List.cons.injEq] at hdecoded
      exact hfirst (Option.some.inj hdecoded.1).symm
    have hopen := openSegments_of_ne hne
    rw [← hparts] at hopen
    have hgrown : (openSegments ((first :: rest).foldl (pushSegment u.scheme)
        (dropEmptyLast u.path.parts))).length =
          (openSegments (dropEmptyLast u.path.parts)).length + (first :: rest).length := by
      rw [hopen, hparts, List.length_append, hlength]
      rfl
    obtain ⟨new', hnew, hplain⟩ := pushSegments_grown hscheme hgrown
    rw [hopen, hparts] at hnew
    have hsame : new = new' := List.append_cancel_left hnew
    exact hplain (hsame ▸ hdecoded)
  · intro hplain
    refine ⟨(first :: rest).map fun segment => encodePart u.scheme segment.toList, ?_, ?_⟩
    · rw [path_join_plain hpath hscheme hfirst hplain]
      rfl
    · exact decoded?_encodeParts u.scheme (first :: rest)

/-- Ways of plain segments are told apart by the text of the path. -/
theorem way_of_path_text {first' : String} {rest' : List String}
    (hpath : u.path = .segments parts) (hscheme : u.scheme ≠ "file")
    (hfirst : first ≠ "") (hplain : ∀ segment ∈ first :: rest, IsPlain segment)
    (hfirst' : first' ≠ "") (hplain' : ∀ segment ∈ first' :: rest', IsPlain segment)
    (htext : (u.join (first :: rest)).path.text = (u.join (first' :: rest')).path.text) :
    first :: rest = first' :: rest' := by
  have hslashes : ∀ (way : List String),
      ∀ part ∈ way.map (fun segment => encodePart u.scheme segment.toList), '/' ∉ part.toList := by
    intro way part hpart
    obtain ⟨segment, -, rfl⟩ := List.mem_map.1 hpart
    exact slash_not_mem_encodePart u.scheme segment.toList
  rw [path_join_plain hpath hscheme hfirst hplain,
    path_join_plain hpath hscheme hfirst' hplain'] at htext
  change Path.partsText _ = Path.partsText _ at htext
  rw [partsText_append, partsText_append, String.append_right_inj] at htext
  have hparts := partsText_injective (hslashes _) (hslashes _) htext
  have hways := congrArg (List.map decoded?) hparts
  rw [decoded?_encodeParts, decoded?_encodeParts] at hways
  exact (List.map_inj_right fun _ _ => Option.some.inj).1 hways

end Joining

end Ingest.Url
