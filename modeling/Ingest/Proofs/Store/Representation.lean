import Ingest.Proofs.Files.LastNames
import Ingest.Proofs.Text.Lowercase
import Ingest.Store
/-!
# Names of representations

A file goes into the representation that is named for it, or else into the one that its own name
ends with, in lower case.  Such a name is never empty and holds nothing of the path but the end of
its last name, so neither the folders nor slashes and dots at the end of the path have a say in it.
-/

namespace Ingest

namespace FileEntry

def moved : FileEntry → Path → FileEntry
  | .path _, q => .path q
  | .named name _, q => .named name q

/-- The name is not empty, and it has no dots, slashes or capital letters of ASCII. -/
structure IsPlainName (name : String) : Prop where
  ne_empty : name ≠ ""
  no_dot : '.' ∉ name.toList
  no_slash : '/' ∉ name.toList
  no_capital : ∀ c ∈ name.toList, c.isUpper = false

/-! ## Names taken from files -/

/-- What the name of a file ends with, in lower case, if that is any text. -/
def derivedName? (p : Path) : Option String :=
  (p.extension?.map Text.lowercase).filter (!·.isEmpty)

theorem representation?_of_given {e : FileEntry} {name : String} (h : e.givenName? = some name) :
    e.representation? = some name := by
  rw [representation?, h]
  rfl

theorem representation?_of_none {e : FileEntry} (h : e.givenName? = none) :
    e.representation? = derivedName? e.file := by
  rw [representation?, h]
  rfl

theorem derivedName?_eq_some_iff {p : Path} {name : String} :
    derivedName? p = some name ↔ ∃ before after : String,
      p.fileName? = some (before ++ "." ++ after) ∧ '.' ∉ after.toList ∧ before ≠ "" ∧
        after ≠ "" ∧ name = Text.lowercase after := by
  rw [derivedName?, Option.filter_eq_some_iff, Option.map_eq_some_iff]
  constructor
  · rintro ⟨⟨after, hextension, rfl⟩, hkept⟩
    obtain ⟨before, hname, hdot, hbefore⟩ := Path.extension?_eq_some_iff.1 hextension
    refine ⟨before, after, hname, hdot, hbefore, ?_, rfl⟩
    intro hafter
    rw [Text.lowercase_eq_empty_iff.2 hafter] at hkept
    cases hkept
  · rintro ⟨before, after, hname, hdot, hbefore, hafter, rfl⟩
    refine ⟨⟨after, Path.extension?_eq_some_iff.2 ⟨before, hname, hdot, hbefore⟩, rfl⟩, ?_⟩
    simpa [Text.lowercase_eq_empty_iff] using hafter

theorem isPlainName_of_derived {p : Path} {name : String} (h : derivedName? p = some name) :
    IsPlainName name := by
  obtain ⟨before, after, hname, hdot, -, hafter, rfl⟩ := derivedName?_eq_some_iff.1 h
  have hslash : '/' ∉ after.toList := by
    have hfile := (Path.fileName?_eq_some_iff.1 hname).1.slash
    rw [String.toList_append, List.mem_append, not_or] at hfile
    exact hfile.2
  refine ⟨?_, ?_, ?_, fun c hc => Text.isUpper_of_mem_lowercase hc⟩
  · rwa [ne_eq, Text.lowercase_eq_empty_iff]
  · exact fun hmem => hdot (Text.mem_of_mem_lowercase hmem rfl)
  · exact fun hmem => hslash (Text.mem_of_mem_lowercase hmem rfl)

/-! ## Other paths -/

theorem file_moved (e : FileEntry) (q : Path) : (e.moved q).file = q := by
  cases e <;> rfl

theorem givenName?_moved (e : FileEntry) (q : Path) : (e.moved q).givenName? = e.givenName? := by
  cases e <;> rfl

theorem givenName?_ne_empty (e : FileEntry) : e.givenName? ≠ some "" := by
  intro h
  cases e with
  | path path => cases h
  | named name path =>
      rw [givenName?] at h
      split at h
      · cases h
      · rename_i hname
        cases h
        exact hname rfl

/-- Nothing of a path but its file name has a say. -/
theorem derivedName?_congr {p q : Path} (h : p.fileName? = q.fileName?) :
    derivedName? p = derivedName? q := by
  rw [derivedName?, derivedName?, Path.extension?, Path.extension?, h]

theorem representation?_moved (e : FileEntry) {p q : Path} (h : p.fileName? = q.fileName?) :
    (e.moved p).representation? = (e.moved q).representation? := by
  cases hgiven : e.givenName? with
  | none =>
      rw [representation?_of_none ((givenName?_moved e p).trans hgiven),
        representation?_of_none ((givenName?_moved e q).trans hgiven), file_moved, file_moved,
        derivedName?_congr h]
  | some name =>
      rw [representation?_of_given ((givenName?_moved e p).trans hgiven),
        representation?_of_given ((givenName?_moved e q).trans hgiven)]

theorem moved_self (e : FileEntry) : e.moved e.file = e := by
  cases e <;> rfl

/-! ## Names of representations -/

/-- The representation of a file has the name that is given for it, unless that is empty, or else
what stands behind the last dot of the file's name, in lower case.  It is never empty, and neither
folders before the name nor slashes and dots behind it change anything. -/
theorem representation?_wellFormed :
    (∀ (name : String) (path : Path), name ≠ "" →
      (FileEntry.named name path).representation? = some name) ∧
    (∀ path : Path, ∀ e ∈ [FileEntry.path path, .named "" path], ∀ name,
      (e.representation? = some name ↔
        ∃ file before after : String, IsLastName path.text.toList file.toList ∧ file ≠ ".." ∧
          file = before ++ "." ++ after ∧ '.' ∉ after.toList ∧ before ≠ "" ∧ after ≠ "" ∧
          name = Text.lowercase after) ∧
      (e.representation? = some name → IsPlainName name)) ∧
    (∀ e : FileEntry, e.representation? ≠ some "") ∧
    (∀ (e : FileEntry) (folder rest : String), (∃ file, IsLastName rest.toList file) →
      (e.moved ⟨folder ++ "/" ++ rest⟩).representation? = (e.moved ⟨rest⟩).representation?) ∧
    ∀ (e : FileEntry) (back : String), IsIdleEnd back.toList →
      (e.moved ⟨e.file.text ++ back⟩).representation? = e.representation? := by
  refine ⟨?_, ?_, ?_, ?_, ?_⟩
  · intro name path hname
    apply representation?_of_given
    simp [givenName?, hname]
  · intro path e he name
    have hderived : e.representation? = derivedName? path := by
      simp only [List.mem_cons, List.not_mem_nil, or_false] at he
      rcases he with rfl | rfl <;> exact representation?_of_none rfl
    rw [hderived, derivedName?_eq_some_iff]
    refine ⟨?_, fun h => isPlainName_of_derived (derivedName?_eq_some_iff.2 h)⟩
    constructor
    · rintro ⟨before, after, hname, hrest⟩
      obtain ⟨hlast, hup⟩ := Path.fileName?_eq_some_iff.1 hname
      exact ⟨_, before, after, hlast, hup, rfl, hrest⟩
    · rintro ⟨_, before, after, hlast, hup, rfl, hrest⟩
      exact ⟨before, after, Path.fileName?_eq_some_iff.2 ⟨hlast, hup⟩, hrest⟩
  · intro e h
    cases hgiven : e.givenName? with
    | none =>
        rw [representation?_of_none hgiven] at h
        exact (isPlainName_of_derived h).ne_empty rfl
    | some name =>
        rw [representation?_of_given hgiven] at h
        exact givenName?_ne_empty e (hgiven.trans h)
  · rintro e folder rest ⟨file, hfile⟩
    exact representation?_moved e (Path.fileName?_below folder hfile)
  · intro e back hback
    have hmoved := representation?_moved e (Path.fileName?_idleEnd e.file hback)
    rwa [moved_self] at hmoved

theorem representation?_wellFormed_sample :
    (FileEntry.named "edm" ⟨"/data/record.xml"⟩).representation? = some "edm" ∧
    (FileEntry.path ⟨"data.d/./Scan.v2.TİFF/./"⟩).representation? = some "ti\u0307ff" ∧
    IsPlainName "ti\u0307ff" ∧
    (FileEntry.named "" ⟨"a.d/b.XML"⟩).representation? =
      (FileEntry.named "" ⟨"b.XML"⟩).representation? ∧
    (FileEntry.path ⟨"b.XML/.//."⟩).representation? =
      (FileEntry.path ⟨"b.XML"⟩).representation? := by
  obtain ⟨hgiven, hderived, -, hfolder, hback⟩ := representation?_wellFormed
  have hlast : IsLastName "data.d/./Scan.v2.TİFF/./".toList "Scan.v2.TİFF".toList :=
    ⟨by decide, by decide, by decide, "data.d/./".toList, "/./".toList, by decide,
      .inr ⟨"data.d/.".toList, by decide⟩, .dot (.slash .none)⟩
  have hscan : (FileEntry.path ⟨"data.d/./Scan.v2.TİFF/./"⟩).representation? =
      some "ti\u0307ff" :=
    (hderived _ _ List.mem_cons_self _).1.2 ⟨"Scan.v2.TİFF", "Scan.v2", "TİFF", hlast, by decide,
      by decide, by decide, by decide, by decide, by decide +kernel⟩
  refine ⟨hgiven _ _ (by decide), hscan, (hderived _ _ List.mem_cons_self _).2 hscan, ?_, ?_⟩
  · exact hfolder (.named "" ⟨""⟩) "a.d" "b.XML"
      ⟨"b.XML".toList, by decide, by decide, by decide, [], [], by decide, .inl rfl, .none⟩
  · exact hback (.path ⟨"b.XML"⟩) "/.//." (.dot (.slash (.dot .none)))

end FileEntry

end Ingest
