import Ingest.Proofs.Url.Written
/-!
# What appending segments changes

Segments are appended to the path alone: the rest of the URL stays, and the parts of the new path
are those of the old one, without an empty last one, and behind them the encoded segments.  Read
back from the text of the path, each of these is the segment that it stands for.
-/

namespace Ingest

/-! ## Percent signs -/

namespace Percent

def IsPaired (cs : List Char) : Prop :=
  ∀ before after, cs = before ++ '%' :: after → ∃ h l rest, after = h :: l :: rest ∧
    (Hex.value? h).isSome = true ∧ (Hex.value? l).isSome = true

theorem isPaired_of_not_mem {cs : List Char} (h : '%' ∉ cs) : IsPaired cs := by
  rintro before after rfl
  exact absurd (List.mem_append_right before List.mem_cons_self) h

theorem isPaired_append {cs ds : List Char} (hcs : IsPaired cs) (hds : IsPaired ds) :
    IsPaired (cs ++ ds) := by
  intro before after h
  rcases List.append_eq_append_iff.1 h with ⟨between, rfl, hrest⟩ | ⟨between, hfirst, hrest⟩
  · exact hds between after hrest
  · cases between with
    | nil => exact hds [] after hrest.symm
    | cons c between =>
        obtain ⟨rfl, rfl⟩ := List.cons.inj hrest
        obtain ⟨d, e, rest, rfl, hdigits⟩ := hcs before between hfirst
        exact ⟨d, e, rest ++ ds, rfl, hdigits⟩

theorem isPaired_flatMap {α : Type} {f : α → List Char} {xs : List α}
    (h : ∀ x ∈ xs, IsPaired (f x)) : IsPaired (xs.flatMap f) := by
  induction xs with
  | nil => exact isPaired_of_not_mem List.not_mem_nil
  | cons x xs ih =>
      rw [List.forall_mem_cons] at h
      exact isPaired_append h.1 (ih h.2)

theorem isPaired_encodeByte (b : UInt8) : IsPaired (encodeByte b) := by
  have hsome : ∀ n < 16, (Hex.value? (Hex.upper n)).isSome = true := by decide
  have hsign : ∀ n < 16, '%' ≠ Hex.upper n := by decide
  have hhigh := high_lt b
  have hlow : b.toNat % 16 < 16 := Nat.mod_lt _ (by decide)
  intro before after h
  cases before with
  | nil =>
      obtain ⟨-, rfl⟩ := List.cons.inj h
      exact ⟨_, _, [], rfl, hsome _ hhigh, hsome _ hlow⟩
  | cons c before =>
      -- The digits are no percent signs, so there is no other sign than the first.
      have hmem : '%' ∈ [Hex.upper (b.toNat / 16), Hex.upper (b.toNat % 16)] := by
        rw [(List.cons.inj h).2]
        exact List.mem_append_right before List.mem_cons_self
      simp only [List.mem_cons, List.not_mem_nil, or_false] at hmem
      rcases hmem with hmem | hmem
      · exact absurd hmem (hsign _ hhigh)
      · exact absurd hmem (hsign _ hlow)

theorem isPaired_encode {escaped : Char → Bool} (hpercent : escaped '%' = true) (cs : List Char) :
    IsPaired (encode escaped cs) := by
  apply isPaired_flatMap
  intro c hc
  unfold encodeChar
  by_cases hclass : (escaped c || 0x80 ≤ c.toNat) = true
  · rw [if_pos hclass]
    exact isPaired_flatMap fun b _ => isPaired_encodeByte b
  · rw [if_neg hclass]
    apply isPaired_of_not_mem
    rw [List.mem_singleton]
    rintro rfl
    rw [hpercent] at hclass
    exact hclass rfl

end Percent

namespace Url

/-! ## Encoded segments -/

/-- Nothing in a part of a path begins another part, a query or a fragment, or could be taken for
a character that it does not stand for. -/
structure IsEscaped (part : String) : Prop where
  unmarked : ∀ c ∈ part.toList, c ≠ '/' ∧ c ≠ '\\' ∧ c ≠ '?' ∧ c ≠ '#'
  paired : Percent.IsPaired part.toList

theorem isEscaped_encodePart {scheme : String} (hspecial : isSpecial scheme = true)
    (part : List Char) : IsEscaped (encodePart scheme part) := by
  obtain ⟨hslash, hmarks⟩ := isPart_encodePart scheme part
  obtain ⟨hquery, hfragment⟩ := isUnmarked_iff.1 hmarks
  have hback : '\\' ∉ (encodePart scheme part).toList :=
    not_mem_encodePart (by simp [inSegmentClass, hspecial]) (by decide) (by decide) part
  have hpercent : inSegmentClass (isSpecial scheme) '%' = true := by simp [inSegmentClass]
  constructor
  · intro c hc
    refine ⟨?_, ?_, ?_, ?_⟩
    · rintro rfl
      exact hslash hc
    · rintro rfl
      exact hback hc
    · rintro rfl
      exact hquery hc
    · rintro rfl
      exact hfragment hc
  · rw [encodePart, String.toList_ofList]
    exact Percent.isPaired_encode hpercent part

/-! ## Segments of a path -/

/-- The segments that the text of a path tells, between its slashes; the root alone has none. -/
def segmentsIn (text : String) : List String :=
  if text = "/" then [] else (Text.cut '/' (text.toList.drop 1)).map String.ofList

def withoutEmptyLast (segments : List String) : List String :=
  if segments.getLast? = some "" then segments.dropLast else segments

/-- The segments that name something: dots alone do not. -/
def named (segments : List String) : List String :=
  segments.filter fun segment => segment ≠ "." && segment ≠ ".."

theorem cut_partsText {part : String} {parts : List String}
    (h : ∀ p ∈ part :: parts, '/' ∉ p.toList) :
    Text.cut '/' (part.toList ++ (Path.partsText parts).toList) =
      (part :: parts).map String.toList := by
  induction parts generalizing part with
  | nil =>
      have hpart := List.forall_mem_singleton.1 h
      rw [show (Path.partsText []).toList = [] from rfl, List.append_nil, Text.cut_of_not_mem hpart]
      rfl
  | cons next parts ih =>
      rw [List.forall_mem_cons] at h
      have htext : (Path.partsText (next :: parts)).toList =
          '/' :: (next.toList ++ (Path.partsText parts).toList) := by
        rw [partsText_cons, String.toList_append, String.toList_append]
        rfl
      rw [htext, Text.cut_append, Text.cut_of_not_mem h.1, ih h.2]
      rfl

/-- The segments are read from the text of a path as they are, but for the root. -/
theorem segmentsIn_partsText {parts : List String} (hne : parts ≠ [])
    (h : ∀ part ∈ parts, '/' ∉ part.toList) :
    segmentsIn (Path.partsText parts) = openSegments parts := by
  have hroot : Path.partsText parts = "/" ↔ parts = [""] := by
    constructor
    · intro htext
      exact partsText_injective h (by decide) htext
    · rintro rfl
      rfl
  unfold segmentsIn openSegments
  by_cases hone : parts = [""]
  · rw [if_pos (hroot.2 hone), if_pos hone]
  · rw [if_neg (mt hroot.1 hone), if_neg hone]
    cases parts with
    | nil => exact absurd rfl hne
    | cons part parts =>
        rw [partsText_cons, String.toList_append, String.toList_append]
        show (Text.cut '/' (part.toList ++ (Path.partsText parts).toList)).map String.ofList = _
        rw [cut_partsText h, List.map_map]
        have hsame : String.ofList ∘ String.toList = id := by
          funext s
          exact String.ofList_toList
        rw [hsame, List.map_id]

/-! ## Paths that were read -/

theorem parts_read_ne_nil (way : Way) (part : List Char) :
    (way.read false part true).parts ≠ [] := by
  unfold Way.read
  dsimp only
  split
  · simp
  · split
    · simp
    · rw [if_neg (by simp)]
      simp

theorem parts_readAll_ne_nil (way : Way) {raws : List (List Char)} (h : raws ≠ []) :
    (way.readAll false raws).parts ≠ [] := by
  induction raws generalizing way with
  | nil => exact absurd rfl h
  | cons raw raws ih =>
      cases raws with
      | nil => exact parts_read_ne_nil way _
      | cons next others => exact ih _ (List.cons_ne_nil next others)

theorem readPath_ne_nil {scheme : String} (hfile : scheme ≠ "file") (cs : List Char) :
    readPath scheme cs ≠ [] := by
  unfold readPath readPathBelow Way.readPath settleFile
  simp only [hfile, decide_false, Bool.false_eq_true, if_false]
  exact parts_readAll_ne_nil _ (Text.cut_ne_nil '/' _)

theorem parts_ne_nil_of_ofText {s : String} {u : Url} (h : ofText s = .ok u)
    (hhttp : u.isHttp = true) : u.path.parts ≠ [] := by
  have hspecial := isSpecial_of_isHttp hhttp
  obtain ⟨cs, hread⟩ := readAfterSlashes_of_ofText h hhttp
  obtain ⟨a, left, hassembled⟩ := assemble_of_readAfterSlashes hread
  rw [hassembled]
  simp only [assemble, parts_ofParts, hspecial, Bool.not_true, Bool.and_false]
  exact readPath_ne_nil (scheme_ne_file hhttp) _

/-! ## Appending -/

theorem named_cons_dots {segment : String} (h : segment = "." ∨ segment = "..")
    (segments : List String) : named (segment :: segments) = named segments := by
  rcases h with rfl | rfl <;> rfl

theorem named_cons {segment : String} (hdot : segment ≠ ".") (hdots : segment ≠ "..")
    (segments : List String) : named (segment :: segments) = segment :: named segments := by
  simp [named, hdot, hdots]

theorem pushSegments_named (scheme : String) (segments parts : List String) :
    segments.foldl (pushSegment scheme) parts =
      (named segments).foldl (pushSegment scheme) parts := by
  induction segments generalizing parts with
  | nil => rfl
  | cons segment segments ih =>
      by_cases h : segment = "." ∨ segment = ".."
      · rw [named_cons_dots h, List.foldl_cons, pushSegment_dots h, ih]
      · rw [not_or] at h
        rw [named_cons h.1 h.2, List.foldl_cons, List.foldl_cons, ih]

theorem join_named (u : Url) (segments : List String) :
    u.join segments = u.join (named segments) := by
  have hfold : (fun parts => segments.foldl (pushSegment u.scheme) (dropEmptyLast parts)) =
      fun parts => (named segments).foldl (pushSegment u.scheme) (dropEmptyLast parts) := by
    funext parts
    exact pushSegments_named u.scheme segments (dropEmptyLast parts)
  rw [join, join, hfold]

/-- The parts that segments come after are those that the path tells, unless it is two slashes. -/
theorem root_eq_withoutEmptyLast {parts : List String} (hne : parts ≠ [])
    (hslashes : parts ≠ ["", ""]) :
    openSegments (dropEmptyLast parts) = withoutEmptyLast (openSegments parts) := by
  by_cases hone : parts = [""]
  · rw [hone]
    rfl
  · rw [openSegments_of_ne hone]
    unfold dropEmptyLast withoutEmptyLast
    by_cases hlast : parts.getLast? = some ""
    · -- There are two parts at least, and something is left that is not the root.
      obtain ⟨before, rfl⟩ := List.getLast?_eq_some_iff.1 hlast
      have hbefore : before ≠ [] := by
        rintro rfl
        exact hone rfl
      have hlength : 2 ≤ (before ++ [""]).length := by
        have hpos := List.length_pos_iff.2 hbefore
        rw [List.length_append, List.length_singleton]
        omega
      have hcond : (decide (2 ≤ (before ++ [""]).length) &&
          decide ((before ++ [""]).getLast? = some "")) = true := by
        rw [decide_eq_true hlength, decide_eq_true hlast, Bool.and_self]
      rw [if_pos hcond, if_pos hlast, List.dropLast_concat, openSegments_of_ne]
      rintro rfl
      exact hslashes rfl
    · rw [if_neg (by simp [hlast]), if_neg hlast, openSegments_of_ne hone]

theorem dropEmptyLast_ne_nil {parts : List String} (h : parts ≠ []) : dropEmptyLast parts ≠ [] := by
  unfold dropEmptyLast
  split
  · rename_i hcond
    simp only [Bool.and_eq_true, decide_eq_true_eq] at hcond
    rw [← List.length_pos_iff, List.length_dropLast]
    omega
  · exact h

theorem mem_of_mem_openSegments {part : String} {parts : List String}
    (h : part ∈ openSegments parts) : part ∈ parts := by
  unfold openSegments at h
  split at h
  · cases h
  · exact h

theorem isPlain_of_mem_named {segments : List String}
    (hbreak : ∀ segment ∈ segments, segment.toList.any isPassedOver = false) :
    ∀ segment ∈ named segments, IsPlain segment := by
  intro segment h
  obtain ⟨hmem, hname⟩ := List.mem_filter.1 h
  simp only [Bool.and_eq_true, decide_eq_true_eq] at hname
  exact ⟨hname.1, hname.2, hbreak segment hmem⟩

/-- The text of the new path tells the old segments and the encoded new ones. -/
theorem segmentsIn_join {base : Url} {parts : List String} (hpath : base.path = .segments parts)
    (hscheme : base.scheme ≠ "file") (hne : parts ≠ []) (hparts : ∀ part ∈ parts, IsPart part)
    {segments : List String} (hplain : ∀ segment ∈ named segments, IsPlain segment)
    (hfirst : (named segments).head? ≠ some "") :
    segmentsIn (base.join segments).path.text = openSegments (dropEmptyLast parts) ++
      (named segments).map fun segment => encodePart base.scheme segment.toList := by
  have hroot : base.root = openSegments (dropEmptyLast parts) := by
    rw [root, hpath]
    rfl
  rw [join_named]
  cases hnamed : named segments with
  | nil =>
      rw [path_join hpath, hpath, List.foldl_nil, List.map_nil, List.append_nil]
      apply segmentsIn_partsText (dropEmptyLast_ne_nil hne)
      intro part hpart
      exact (hparts part (mem_of_mem_dropEmptyLast hpart)).1
  | cons first rest =>
      rw [hnamed] at hplain hfirst
      have hname : first ≠ "" := by
        rintro rfl
        exact hfirst rfl
      rw [path_join_plain hpath hscheme hname hplain, hroot]
      -- The first segment has a text, so the path does not come down to the root.
      have hlong : openSegments (dropEmptyLast parts) ++
          (first :: rest).map (fun segment => encodePart base.scheme segment.toList) ≠ [""] := by
        intro heq
        have hmem : encodePart base.scheme first.toList ∈ [""] := by
          rw [← heq]
          exact List.mem_append_right _ List.mem_cons_self
        exact encodePart_ne_empty hname (List.mem_singleton.1 hmem)
      refine (segmentsIn_partsText (by simp) ?_).trans (openSegments_of_ne hlong)
      rw [List.forall_mem_append]
      constructor
      · intro part hpart
        exact (hparts part (mem_of_mem_dropEmptyLast (mem_of_mem_openSegments hpart))).1
      · intro part hpart
        obtain ⟨segment, -, rfl⟩ := List.mem_map.1 hpart
        exact slash_not_mem_encodePart base.scheme segment.toList

/-- What a URL keeps when segments are appended to it, and what the new segments of its path are. -/
structure Extends (base u : Url) (segments : List String) : Prop where
  scheme : u.scheme = base.scheme
  authority : u.authority = base.authority
  query : u.query = base.query
  fragment : u.fragment = base.fragment
  path : segmentsIn u.path.text = withoutEmptyLast (segmentsIn base.path.text) ++
    (named segments).map fun segment => encodePart base.scheme segment.toList
  read : ∀ segment ∈ named segments,
    decoded? (encodePart base.scheme segment.toList) = some segment
  escaped : ∀ segment ∈ named segments, IsEscaped (encodePart base.scheme segment.toList)
  root : base.path.text = "/" → named segments = [] → u.path.text = "/"

theorem extends_join {s : String} {base : Url} (hread : ofText s = .ok base)
    (hhttp : base.isHttp = true) (hslashes : base.path.text ≠ "//") {segments : List String}
    (hbreak : ∀ segment ∈ segments, segment.toList.any isPassedOver = false)
    (hfirst : (named segments).head? ≠ some "") : Extends base (base.join segments) segments := by
  obtain ⟨parts, hpath⟩ := (isWeb_ofText hread hhttp).path
  have hne := parts_ne_nil_of_ofText hread hhttp
  have hparts := isPart_of_ofText hread hhttp
  rw [hpath, Path.parts] at hne hparts
  have hscheme := scheme_ne_file hhttp
  have htext : base.path.text = Path.partsText parts := congrArg Path.text hpath
  have htwo : parts ≠ ["", ""] := by
    rintro rfl
    exact hslashes htext
  have hslash : ∀ part ∈ parts, '/' ∉ part.toList := fun part hpart => (hparts part hpart).1
  refine
    { scheme := rfl
      authority := rfl
      query := rfl
      fragment := rfl
      path := ?_
      read := fun segment _ => decoded?_encodePart_toList base.scheme segment
      escaped := fun segment _ => isEscaped_encodePart (isSpecial_of_isHttp hhttp) segment.toList
      root := ?_ }
  · calc segmentsIn (base.join segments).path.text
        = openSegments (dropEmptyLast parts) ++
            (named segments).map fun segment => encodePart base.scheme segment.toList :=
          segmentsIn_join hpath hscheme hne hparts (isPlain_of_mem_named hbreak) hfirst
      _ = withoutEmptyLast (openSegments parts) ++ _ := by
          rw [root_eq_withoutEmptyLast hne htwo]
      _ = withoutEmptyLast (segmentsIn base.path.text) ++ _ := by
          rw [htext, segmentsIn_partsText hne hslash]
  · intro hbare hnone
    have hone : parts = [""] := by
      rw [htext] at hbare
      exact partsText_injective hslash (by decide) hbare
    rw [join_named, hnone, path_join hpath, hpath, hone]
    rfl

/-- Segments extend the path of a web address and nothing else, and each can be read back from its
part of the path; only two bare slashes and a first segment that is empty are left open, and tabs
and line breaks.  A path of any other form stays as it is. -/
theorem join_extends_path :
    (∀ s base segments, ofText s = .ok base → base.isHttp = true → base.path.text ≠ "//" →
      (∀ segment ∈ segments, segment.toList.any isPassedOver = false) →
      (named segments).head? ≠ some "" → Extends base (base.join segments) segments) ∧
    ∀ (u : Url) text segments, u.path = .plain text → u.join segments = u := by
  constructor
  · intro s base segments hread hhttp hslashes hbreak hfirst
    exact extends_join hread hhttp hslashes hbreak hfirst
  · intro u text segments hplain
    rw [join, hplain]
    show { u with path := .plain text } = u
    rw [← hplain]

def markedUrl : Url :=
  ⟨"http", some ⟨"u", some "p", .domain "h", some 8080⟩, .segments ["a", "", "b", ""], some "q=/",
    some "f"⟩

theorem join_extends_path_marked :
    segmentsIn (markedUrl.join ["..", "a/b%2F", "", ".", "é?#\\"]).path.text =
        ["a", "", "b", "a%2Fb%252F", "", "%C3%A9%3F%23%5C"] ∧
      (⟨"mailto", none, .plain "a@h", none, none⟩ : Url).join ["b"] =
        ⟨"mailto", none, .plain "a@h", none, none⟩ := by
  have hread : ofText "http://u:p@h:8080/a//b/?q=/#f" = .ok markedUrl :=
    toOption_eq_some_iff.1 (by decide +kernel)
  have hextends := join_extends_path.1 _ markedUrl ["..", "a/b%2F", "", ".", "é?#\\"] hread
    (by decide) (by decide) (by decide) (by decide)
  refine ⟨?_, join_extends_path.2 _ "a@h" ["b"] rfl⟩
  rw [hextends.path]
  decide +kernel

end Url

end Ingest
