import Ingest.Proofs.Http.Sending
import Ingest.Proofs.Result
import Ingest.Proofs.Text.Percent
/-!
# Where the path of a URL ends

The text of a web address goes on to its query at the first question mark and to its fragment at
the first hash.  Neither stands before, in the user, the host, the port or the path, however the
address was written when it was read: what could be taken for one there is encoded or refused.  So
the text is told apart again by looking for these characters alone.
-/

namespace Ingest.Url

/-- Neither a query nor a fragment starts in the text. -/
def IsUnmarked (s : String) : Prop := ∀ c ∈ s.toList, endsPath c = false

instance : DecidablePred IsUnmarked := fun s =>
  List.decidableBAll (endsPath · = false) s.toList

@[simp] theorem isUnmarked_append {s t : String} :
    IsUnmarked (s ++ t) ↔ IsUnmarked s ∧ IsUnmarked t := by
  simp only [IsUnmarked, String.toList_append, List.forall_mem_append]

/-! ## Numbers -/

theorem endsPath_of_mem_toDigits {base : Nat} (hone : 1 < base) (hbase : base ≤ 16) {n : Nat}
    {c : Char} (h : c ∈ Nat.toDigits base n) : endsPath c = false := by
  have hdigit : ∀ k < 16, endsPath (Nat.digitChar k) = false := by decide
  induction n using Nat.strongRecOn with
  | ind n ih =>
      rw [Nat.toDigits_eq_if hone] at h
      split at h
      · rw [List.mem_singleton.1 h]
        exact hdigit n (by omega)
      · rcases List.mem_append.1 h with h | h
        · exact ih _ (Nat.div_lt_self (by omega) hone) h
        · have hlt := Nat.mod_lt n (Nat.lt_trans Nat.zero_lt_one hone)
          rw [List.mem_singleton.1 h]
          exact hdigit _ (by omega)

theorem isUnmarked_toString (n : Nat) : IsUnmarked (toString n) := by
  intro c hc
  rw [show (toString n).toList = Nat.toDigits 10 n from Nat.toList_repr] at hc
  exact endsPath_of_mem_toDigits (by decide) (by decide) hc

/-! ## Hosts -/

theorem isUnmarked_ipv4Text (address : Nat) : IsUnmarked (ipv4Text address) := by
  have hdot : IsUnmarked (toString ".") := by decide
  simp only [ipv4Text, isUnmarked_append, isUnmarked_toString, hdot, and_self]

theorem isUnmarked_intercalate {separator : String} (hseparator : IsUnmarked separator)
    {parts : List String} (h : ∀ part ∈ parts, IsUnmarked part) :
    IsUnmarked (separator.intercalate parts) := by
  induction parts with
  | nil => simp [IsUnmarked]
  | cons part parts ih =>
      rw [List.forall_mem_cons] at h
      cases parts with
      | nil => simpa using h.1
      | cons next others =>
          rw [String.intercalate_cons_cons, isUnmarked_append, isUnmarked_append]
          exact ⟨⟨h.1, hseparator⟩, ih h.2⟩

theorem isUnmarked_groupsText (groups : List Nat) : IsUnmarked (groupsText groups) := by
  refine isUnmarked_intercalate (by decide) fun part hpart => ?_
  obtain ⟨group, -, rfl⟩ := List.mem_map.1 hpart
  intro c hc
  rw [String.toList_ofList] at hc
  exact endsPath_of_mem_toDigits (by decide) (by decide) hc

theorem isUnmarked_ipv6Text (groups : List Nat) : IsUnmarked (ipv6Text groups) := by
  have hgap : IsUnmarked "::" := by decide
  unfold ipv6Text
  dsimp only
  split
  · exact isUnmarked_groupsText groups
  · simp only [isUnmarked_append, isUnmarked_groupsText, hgap, and_self]

theorem isUnmarked_of_toAscii {s : String} {name : List Char} (h : Domain.toAscii s = some name) :
    IsUnmarked (String.ofList name) := by
  obtain ⟨settled, -, h⟩ := Option.bind_eq_some_iff.1 h
  obtain ⟨labels, -, h⟩ := Option.bind_eq_some_iff.1 h
  obtain ⟨_, -, h⟩ := Option.bind_eq_some_iff.1 h
  obtain ⟨_, hguard, hname⟩ := Option.bind_eq_some_iff.1 h
  obtain rfl := Option.some.inj hname
  have hallowed : (Text.glue '.' (labels.map (·.ascii))).any Domain.isForbidden = false := by
    cases hany : (Text.glue '.' (labels.map (·.ascii))).any Domain.isForbidden with
    | false => rfl
    | true =>
        rw [hany] at hguard
        cases hguard
  intro c hc
  rw [String.toList_ofList] at hc
  have hplain := List.any_eq_false.1 hallowed c hc
  cases hmark : endsPath c with
  | false => rfl
  | true =>
      simp only [endsPath, Bool.or_eq_true, beq_iff_eq] at hmark
      rcases hmark with rfl | rfl <;> exact absurd (by decide) hplain

theorem isUnmarked_of_bracketed {cs : List Char} {host : Host}
    (h : bracketed? cs = some (.ok host)) : IsUnmarked host.text := by
  have hopen : IsUnmarked "[" := by decide
  have hclose : IsUnmarked "]" := by decide
  unfold bracketed? at h
  split at h
  · split at h
    · obtain ⟨groups, -, rfl⟩ := map_eq_ok_iff.1 (Option.some.inj h)
      simp only [Host.text, isUnmarked_append, isUnmarked_ipv6Text, hopen, hclose, and_self]
    · cases h
  · cases h

theorem isUnmarked_of_readWebHost {cs : List Char} {host : Host} (h : readWebHost cs = .ok host) :
    IsUnmarked host.text := by
  unfold readWebHost at h
  split at h
  · rename_i hbracket
    exact isUnmarked_of_bracketed (h ▸ hbracket)
  · split at h
    · cases h
    · cases h
    · rename_i hname
      split at h
      · obtain ⟨address, -, rfl⟩ := map_eq_ok_iff.1 h
        exact isUnmarked_ipv4Text address
      · obtain ⟨text, -, hascii⟩ := Option.bind_eq_some_iff.1 hname
        obtain rfl := Except.ok.inj h
        exact isUnmarked_of_toAscii hascii

/-! ## Authorities -/

theorem isUnmarked_readUser (cs : List Char) :
    IsUnmarked (readUser cs).1 ∧ ∀ password, (readUser cs).2 = some password →
      IsUnmarked password := by
  have hencode : ∀ part, IsUnmarked (String.ofList (Percent.encode inUserClass part)) := by
    intro part c hc
    rw [String.toList_ofList] at hc
    cases hmark : endsPath c with
    | false => rfl
    | true =>
        simp only [endsPath, Bool.or_eq_true, beq_iff_eq] at hmark
        rcases hmark with rfl | rfl <;>
          exact absurd (Percent.mem_of_mem_encode (by decide) (by decide) hc).2 (by decide)
  constructor
  · exact hencode _
  · intro password hpassword
    simp only [readUser] at hpassword
    split at hpassword
    · cases hpassword
    · obtain rfl := Option.some.inj hpassword
      exact hencode _

theorem isUnmarked_of_readHostAndPort {scheme : String} (hspecial : isSpecial scheme = true)
    {cs left : List Char} {host : Host} {port : Option Nat}
    (h : readHostAndPort scheme cs = .ok (host, port, left)) : IsUnmarked host.text := by
  unfold readHostAndPort at h
  rw [hspecial] at h
  replace h := (guard_eq_ok_iff.1 h).2
  obtain ⟨host', hhost, h⟩ := bind_eq_ok_iff.1 h
  have hunmarked : IsUnmarked host'.text := isUnmarked_of_readWebHost hhost
  split at h
  · obtain ⟨⟨port', left'⟩, -, h⟩ := bind_eq_ok_iff.1 (guard_eq_ok_iff.1 h).2
    cases h
    exact hunmarked
  · cases h
    exact hunmarked

theorem isUnmarked_hostText {a : Authority} (h : IsUnmarked a.host.text) :
    IsUnmarked a.hostText := by
  have hcolon : IsUnmarked ":" := by decide
  unfold Authority.hostText
  split
  · exact h
  · simp only [isUnmarked_append, h, hcolon, isUnmarked_toString, and_self]

theorem isUnmarked_userText {a : Authority} (hname : IsUnmarked a.username)
    (hpassword : ∀ password, a.password = some password → IsUnmarked password) :
    IsUnmarked a.userText := by
  have hcolon : IsUnmarked ":" := by decide
  have hat : IsUnmarked "@" := by decide
  unfold Authority.userText
  split
  · split
    · decide
    · simp only [isUnmarked_append, hname, hat, and_self]
  · rename_i password hsome
    simp only [isUnmarked_append, hname, hpassword password hsome, hcolon, hat, and_self]

theorem isUnmarked_of_readAuthority {scheme : String} (hspecial : isSpecial scheme = true)
    {cs left : List Char} {atEnd : Bool} {a : Authority}
    (h : readAuthority scheme cs atEnd = .ok (a, left)) :
    IsUnmarked a.userText ∧ IsUnmarked a.hostText := by
  unfold readAuthority at h
  replace h := (guard_eq_ok_iff.1 h).2
  obtain ⟨⟨host, port, rest⟩, hplace, h⟩ := bind_eq_ok_iff.1 h
  replace h := (guard_eq_ok_iff.1 h).2
  cases h
  exact ⟨isUnmarked_userText (isUnmarked_readUser _).1 (isUnmarked_readUser _).2,
    isUnmarked_hostText (isUnmarked_of_readHostAndPort hspecial hplace)⟩

theorem isUnmarked_authorityText {scheme : String} (hspecial : isSpecial scheme = true)
    {cs : List Char} {u : Url} (h : readAfterSlashes scheme cs = .ok u) :
    IsUnmarked u.authorityText := by
  have hslashes : IsUnmarked "//" := by decide
  obtain ⟨⟨a, left⟩, hread, h⟩ := bind_eq_ok_iff.1 h
  obtain ⟨huser, hhost⟩ := isUnmarked_of_readAuthority hspecial hread
  cases h
  simp only [authorityText, assemble, isUnmarked_append, hslashes, huser, hhost, and_self]

/-! ## Paths -/

def IsPart (part : String) : Prop := '/' ∉ part.toList ∧ IsUnmarked part

theorem isPart_encode {raw : List Char} (h : '/' ∉ raw) :
    IsPart (String.ofList (Percent.encode inPathClass raw)) := by
  have hmem : ∀ c ∈ Percent.encode inPathClass raw, c = '/' ∨ c = '?' ∨ c = '#' →
      c ∈ raw ∧ inPathClass c = false := by
    intro c hc hmark
    refine Percent.mem_of_mem_encode ?_ ?_ hc
    all_goals rcases hmark with rfl | rfl | rfl <;> decide
  rw [IsPart, IsUnmarked, String.toList_ofList]
  constructor
  · intro hc
    exact h (hmem '/' hc (.inl rfl)).1
  · intro c hc
    cases hmark : endsPath c with
    | false => rfl
    | true =>
        simp only [endsPath, Bool.or_eq_true, beq_iff_eq] at hmark
        have hclass := (hmem c hc (.inr hmark)).2
        rcases hmark with rfl | rfl <;> exact absurd hclass (by decide)

theorem mem_of_mem_goUp {part : String} {parts : List String} (h : part ∈ goUp parts) :
    part ∈ parts := by
  unfold goUp at h
  split at h
  · split at h
    · exact h
    · exact List.dropLast_subset parts h
  · cases h

theorem isPart_read {way : Way} (hway : ∀ part ∈ way.parts, IsPart part) {raw : List Char}
    (hraw : '/' ∉ raw) (isLast : Bool) :
    ∀ part ∈ (way.read false raw isLast).parts, IsPart part := by
  have hempty : IsPart "" := ⟨by decide, by decide⟩
  have hslash : ∀ part ∈ if isLast then [""] else [], IsPart part := by
    cases isLast <;> simp [hempty]
  unfold Way.read
  dsimp only
  split
  · exact List.forall_mem_append.2 ⟨fun part hpart => hway part (mem_of_mem_goUp hpart), hslash⟩
  · split
    · exact List.forall_mem_append.2 ⟨hway, hslash⟩
    · rw [if_neg (by simp)]
      exact List.forall_mem_append.2 ⟨hway, by simpa using isPart_encode hraw⟩

theorem isPart_readRaw {way : Way} (hway : ∀ part ∈ way.parts, IsPart part) {raw : List Char}
    (hraw : '/' ∉ raw) (isLast : Bool) :
    ∀ part ∈ (way.readRaw false raw isLast).parts, IsPart part :=
  isPart_read hway (fun h => hraw (List.mem_filter.1 h).1) isLast

theorem isPart_readAll {way : Way} (hway : ∀ part ∈ way.parts, IsPart part)
    {raws : List (List Char)} (hraws : ∀ raw ∈ raws, '/' ∉ raw) :
    ∀ part ∈ (way.readAll false raws).parts, IsPart part := by
  induction raws generalizing way with
  | nil => exact hway
  | cons raw raws ih =>
      rw [List.forall_mem_cons] at hraws
      cases raws with
      | nil => exact isPart_readRaw hway hraws.1 true
      | cons next others => exact ih (isPart_readRaw hway hraws.1 false) hraws.2

theorem isPart_readPath {scheme : String} (hfile : scheme ≠ "file") (cs : List Char) :
    ∀ part ∈ readPath scheme cs, IsPart part := by
  unfold readPath readPathBelow Way.readPath settleFile
  simp only [hfile, decide_false, Bool.false_eq_true, if_false]
  exact isPart_readAll (by simp) fun raw => Text.not_mem_of_mem_cut

theorem parts_ofParts (behindAuthority : Bool) (parts : List String) :
    (Path.ofParts behindAuthority parts).parts = parts := by
  unfold Path.ofParts
  split
  · split <;> rfl
  · rfl

theorem isPart_of_ofText {s : String} {u : Url} (h : ofText s = .ok u) (hhttp : u.isHttp = true) :
    ∀ part ∈ u.path.parts, IsPart part := by
  have hfile := scheme_ne_file hhttp
  obtain ⟨cs, hread⟩ := readAfterSlashes_of_ofText h hhttp
  obtain ⟨a, left, hassembled⟩ := assemble_of_readAfterSlashes hread
  rw [hassembled]
  simp only [assemble, parts_ofParts]
  split
  · simp
  · exact isPart_readPath hfile _

end Ingest.Url
