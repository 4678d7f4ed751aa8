import Ingest.Proofs.Result
import Ingest.Proofs.Text.Composing
import Ingest.Proofs.Text.Utf8
import Ingest.Url.Host
import Mathlib.Data.Bool.AllAny
import Mathlib.Data.Option.Basic
/-!
# What the host of a web address may hold

A text with a character that would divide the address it stands in is not the host of a web
address: whatever is done to a name while it is read, such a character stays in it until it is
refused.  So a text that is read as a host is a host in any address.
-/

namespace Ingest

/-! ## Pieces of a text -/

namespace Text

theorem mem_glue_iff {separator c : Char} {parts : List (List Char)} (hc : c ≠ separator) :
    c ∈ glue separator parts ↔ ∃ part ∈ parts, c ∈ part := by
  induction parts with
  | nil => simp [glue]
  | cons part parts ih =>
    cases parts with
    | nil => simp [glue]
    | cons next others =>
      have hglue : glue separator (part :: next :: others) =
          part ++ separator :: glue separator (next :: others) := by
        simp [glue, List.intercalate_cons_cons]
      rw [hglue, List.mem_append, List.mem_cons, ih]
      simp [hc]

theorem exists_mem_cut {separator c : Char} (hc : c ≠ separator) {cs : List Char} (h : c ∈ cs) :
    ∃ part ∈ cut separator cs, c ∈ part := by
  rw [← mem_glue_iff hc, glue_cut]
  exact h

end Text

theorem exists_of_mapM_eq_some {α β : Type} {f : α → Option β} {as : List α} {bs : List β}
    (h : as.mapM f = some bs) {a : α} (ha : a ∈ as) : ∃ b ∈ bs, f a = some b := by
  induction as generalizing bs with
  | nil => cases ha
  | cons first rest ih =>
    rw [List.mapM_cons] at h
    obtain ⟨b, hb, h⟩ := Option.bind_eq_some_iff.1 h
    obtain ⟨others, hothers, h⟩ := Option.bind_eq_some_iff.1 h
    obtain rfl := Option.some.inj h
    rcases List.mem_cons.1 ha with rfl | ha
    · exact ⟨b, List.mem_cons_self, hb⟩
    · obtain ⟨b', hb', hf⟩ := ih hothers ha
      exact ⟨b', List.mem_cons_of_mem _ hb', hf⟩

namespace Url

/-- The character ends the host of a web address, divides the address in another way, or is passed
over in it. -/
def isDivider (c : Char) : Bool := "\t\n\r #/?@[\\]".toList.contains c

/-! ## Punycode -/

namespace Punycode

theorem mem_out_pass {c : Char} {basic m : Nat} {w : Writing} (h : c ∈ w.out) (d : Char) :
    c ∈ (w.pass basic m d).out := by
  unfold Writing.pass
  split
  · exact h
  · split
    · exact List.mem_append_left _ h
    · exact h

theorem mem_encodeRounds {c : Char} {label : List Char} {basic : Nat} {points : List Nat} {n : Nat}
    {w : Writing} (h : c ∈ w.out) : c ∈ encodeRounds label basic points n w := by
  have hpass : ∀ (m : Nat) (ds : List Char) (w : Writing), c ∈ w.out →
      c ∈ (ds.foldl (Writing.pass basic m) w).out := by
    intro m ds
    induction ds with
    | nil => exact fun w h => h
    | cons d ds ih => exact fun w h => ih _ (mem_out_pass h d)
  induction points generalizing n w with
  | nil => exact h
  | cons m points ih =>
    apply ih
    apply hpass
    exact h

theorem mem_encode {c : Char} (hc : c.toNat < 0x80) {label : List Char} (h : c ∈ label) :
    c ∈ encode label := by
  have hbasic : c ∈ label.filter (·.toNat < 0x80) := by
    simp [List.mem_filter, h, hc]
  apply mem_encodeRounds
  dsimp only
  rw [if_neg]
  · exact List.mem_append_left _ hbasic
  · rw [List.isEmpty_iff]
    exact List.ne_nil_of_mem hbasic

end Punycode

/-! ## Domain names -/

namespace Domain

theorem mem_settle {c : Char} (hc : isDivider c = true) {cs settled : List Char}
    (hs : settle cs = some settled) (h : c ∈ cs) : c ∈ settled := by
  have hdivider : ∀ d ∈ "\t\n\r #/?@[\\]".toList,
      d.toNat < 0x80 ∧ Text.takesMarks d.toNat = false ∧ d.toLower = d :=
    List.all_iff_forall_prop.1 (by decide)
  obtain ⟨hascii, hmarks, hlower⟩ := hdivider c (List.contains_iff_mem.1 hc)
  obtain ⟨parts, hparts, rfl⟩ := Option.map_eq_some_iff.1 hs
  obtain ⟨part, hpart, hmap⟩ := exists_of_mapM_eq_some hparts h
  rw [mapChar, if_pos hascii, hlower] at hmap
  obtain rfl := Option.some.inj hmap
  apply Text.mem_composed hascii hmarks
  exact List.mem_flatten.2 ⟨[c], hpart, List.mem_singleton_self c⟩

theorem mem_read? {c : Char} (hc : c.toNat < 0x80) {part : List Char} {label : Label}
    (hread : Label.read? part = some label) (h : c ∈ part) : c ∈ label.ascii := by
  unfold Label.read? at hread
  split at hread
  · rename_i hmark
    obtain ⟨code, rfl⟩ := List.isPrefixOf_iff_prefix.1 hmark
    obtain ⟨_, -, hread⟩ := Option.bind_eq_some_iff.1 hread
    obtain ⟨_, -, hread⟩ := Option.bind_eq_some_iff.1 hread
    obtain ⟨_, -, hread⟩ := Option.bind_eq_some_iff.1 hread
    obtain rfl := Option.some.inj hread
    simpa using h
  · split at hread
    · obtain rfl := Option.some.inj hread
      exact h
    · split at hread
      · obtain rfl := Option.some.inj hread
        exact List.mem_append_right _ (Punycode.mem_encode hc h)
      · cases hread

/-- A name in ASCII was read from a text without dividers. -/
theorem not_mem_of_toAscii {s : String} {name : List Char} (h : toAscii s = some name) {c : Char}
    (hc : isDivider c = true) : c ∉ s.toList := by
  intro hmem
  have hdivider : ∀ d ∈ "\t\n\r #/?@[\\]".toList,
      d.toNat < 0x80 ∧ d ≠ '.' ∧ isForbidden d = true := List.all_iff_forall_prop.1 (by decide)
  obtain ⟨hascii, hdot, hforbidden⟩ := hdivider c (List.contains_iff_mem.1 hc)
  obtain ⟨settled, hsettled, h⟩ := Option.bind_eq_some_iff.1 h
  obtain ⟨labels, hlabels, h⟩ := Option.bind_eq_some_iff.1 h
  obtain ⟨_, -, h⟩ := Option.bind_eq_some_iff.1 h
  obtain ⟨_, hallowed, -⟩ := Option.bind_eq_some_iff.1 h
  obtain ⟨part, hpart, hcpart⟩ := Text.exists_mem_cut hdot (mem_settle hc hsettled hmem)
  obtain ⟨label, hlabel, hread⟩ := exists_of_mapM_eq_some hlabels hpart
  have hname : c ∈ Text.glue '.' (labels.map (·.ascii)) := by
    rw [Text.mem_glue_iff hdot]
    exact ⟨label.ascii, List.mem_map_of_mem hlabel, mem_read? hascii hread hcpart⟩
  have hany : (Text.glue '.' (labels.map (·.ascii))).any isForbidden = true :=
    List.any_eq_true.2 ⟨c, hname, hforbidden⟩
  rw [hany] at hallowed
  cases hallowed

end Domain

/-! ## Numbers in brackets -/

theorem splitGap_eq_none {cs : List Char} (h : ':' ∉ cs) : splitGap cs = none := by
  induction cs with
  | nil => rfl
  | cons c cs ih =>
    rw [List.mem_cons, not_or] at h
    rw [splitGap]
    · rw [ih h.2]
      rfl
    · rintro rest rfl
      exact absurd rfl h.1

theorem length_readGroups?_singleton {part : List Char} {groups : List Nat}
    (h : readGroups? [part] = some groups) : groups.length ≤ 2 := by
  unfold readGroups? at h
  split at h
  · unfold embeddedIpv4? at h
    dsimp only at h
    split at h
    · obtain rfl := Option.some.inj h
      exact Nat.le_refl 2
    · cases h
  · obtain ⟨_, -, h⟩ := Option.bind_eq_some_iff.1 h
    obtain ⟨n, -, h⟩ := Option.bind_eq_some_iff.1 h
    obtain rfl := Option.some.inj h
    exact Nat.le_succ 1

theorem readIpv6_ne_ok {cs : List Char} (h : ':' ∉ cs) (groups : List Nat) :
    readIpv6 cs ≠ .ok groups := by
  have hnone : (do
      let all ← readGroups? (Text.cut ':' cs)
      guard (all.length = 8)
      return all) = (none : Option (List Nat)) := by
    rw [Text.cut_of_not_mem h]
    cases hall : readGroups? [cs] with
    | none => rfl
    | some all =>
      have hlength := length_readGroups?_singleton hall
      have hne : all.length ≠ 8 := by omega
      simp [hne, guard]
  intro hread
  unfold readIpv6 at hread
  dsimp only at hread
  rw [splitGap_eq_none h] at hread
  dsimp only at hread
  rw [hnone] at hread
  cases hread

theorem bracketed?_ne_ok {cs : List Char} (h : ':' ∉ cs) (host : Host) :
    bracketed? cs ≠ some (.ok host) := by
  intro hread
  unfold bracketed? at hread
  split at hread
  · rename_i rest
    split at hread
    · rename_i inner hinner
      obtain ⟨groups, hgroups, -⟩ := map_eq_ok_iff.1 (Option.some.inj hread)
      refine readIpv6_ne_ok ?_ groups hgroups
      intro hmem
      have hrest : ':' ∈ rest.reverse := hinner ▸ List.mem_cons_of_mem _ (List.mem_reverse.1 hmem)
      exact h (List.mem_cons_of_mem _ (List.mem_reverse.1 hrest))
    · cases hread
  · cases hread

/-! ## Hosts -/

/-- A text without colons that is read as a host holds no dividers. -/
theorem not_divider_of_readWebHost {cs : List Char} {host : Host} (hcolon : ':' ∉ cs)
    (h : readWebHost cs = .ok host) : ∀ c ∈ cs, isDivider c = false := by
  have hdivider : ∀ d ∈ "\t\n\r #/?@[\\]".toList,
      d.toNat < 0x80 ∧ d ≠ '%' ∧ Hex.value? d = none := List.all_iff_forall_prop.1 (by decide)
  intro c hmem
  cases hc : isDivider c with
  | false => rfl
  | true =>
    obtain ⟨hascii, hsign, hdigit⟩ := hdivider c (List.contains_iff_mem.1 hc)
    have hnamed : ∀ name, (Utf8.decode? (Percent.decode cs)).bind Domain.toAscii ≠ some name := by
      intro name hname
      obtain ⟨s, hs, hname⟩ := Option.bind_eq_some_iff.1 hname
      have hbyte := Percent.byte_mem_decode hascii hsign hdigit hmem
      rw [← Utf8.encode_of_decode? hs] at hbyte
      exact Domain.not_mem_of_toAscii hname hc (Utf8.mem_of_byte_mem hascii hbyte)
    unfold readWebHost at h
    split at h
    · rename_i hbracket
      exact absurd (h ▸ hbracket) (bracketed?_ne_ok hcolon host)
    · split at h
      · cases h
      · cases h
      · rename_i hname
        exact absurd hname (hnamed _)

end Url

end Ingest
