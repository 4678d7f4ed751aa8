import Ingest.Proofs.Text.Percent
/-!
# ASCII characters in UTF-8

An ASCII character is written as one byte, and that byte is part of no other character.  So the
ASCII characters of a text can be told from its bytes, and percent-decoding a text neither drops nor
adds one, apart from the ones that bytes are written with.
-/

namespace Ingest

namespace Utf8

theorem utf8EncodeChar_of_lt {c : Char} (h : c.toNat < 0x80) :
    String.utf8EncodeChar c = [UInt8.ofNat c.toNat] := by
  have hle : c.val.toNat ≤ 0x7F := Nat.le_of_lt_succ h
  unfold String.utf8EncodeChar
  dsimp only
  rw [if_pos hle]
  rfl

theorem le_of_mem_utf8EncodeChar {c : Char} (h : 0x80 ≤ c.toNat) {b : UInt8}
    (hb : b ∈ String.utf8EncodeChar c) : 0x80 ≤ b.toNat := by
  have hle : ¬c.val.toNat ≤ 0x7F := Nat.not_le.2 h
  unfold String.utf8EncodeChar at hb
  dsimp only at hb
  rw [if_neg hle] at hb
  split at hb
  · simp only [List.mem_cons, List.not_mem_nil, or_false] at hb
    rcases hb with rfl | rfl <;> rw [UInt8.toNat_ofNat'] <;> omega
  · split at hb
    · simp only [List.mem_cons, List.not_mem_nil, or_false] at hb
      rcases hb with rfl | rfl | rfl <;> rw [UInt8.toNat_ofNat'] <;> omega
    · simp only [List.mem_cons, List.not_mem_nil, or_false] at hb
      rcases hb with rfl | rfl | rfl | rfl <;> rw [UInt8.toNat_ofNat'] <;> omega

theorem encode_eq (s : String) : encode s = s.toByteArray.data.toList := by
  have hlist : (String.ofList s.toList).toByteArray = s.toByteArray := by rw [String.ofList_toList]
  rw [← hlist]
  exact (congrArg Array.toList List.data_toByteArray).symm

theorem encode_of_decode? {bytes : Bytes} {s : String} (h : decode? bytes = some s) :
    encode s = bytes := by
  unfold decode? String.fromUTF8? at h
  split at h
  · obtain rfl := Option.some.inj h
    rw [encode_eq]
    rfl
  · cases h

/-- An ASCII character is in a text if its byte is among the bytes of the text. -/
theorem mem_of_byte_mem {s : String} {c : Char} (hc : c.toNat < 0x80)
    (h : UInt8.ofNat c.toNat ∈ encode s) : c ∈ s.toList := by
  have hbyte : (UInt8.ofNat c.toNat).toNat = c.toNat := by
    rw [UInt8.toNat_ofNat']
    omega
  obtain ⟨d, hd, hmem⟩ := List.mem_flatMap.1 h
  by_cases hascii : d.toNat < 0x80
  · rw [utf8EncodeChar_of_lt hascii, List.mem_singleton] at hmem
    have hsame : c.toNat = d.toNat := by
      rw [← hbyte, hmem, UInt8.toNat_ofNat']
      omega
    rwa [Char.toNat_inj.1 hsame]
  · have hle := le_of_mem_utf8EncodeChar (Nat.not_lt.1 hascii) hmem
    omega

end Utf8

namespace Percent

/-- A character that bytes are not written with stays in a text that is decoded. -/
theorem byte_mem_decode {c : Char} (hascii : c.toNat < 0x80) (hsign : c ≠ '%')
    (hdigit : Hex.value? c = none) {cs : List Char} (h : c ∈ cs) :
    UInt8.ofNat c.toNat ∈ decode cs := by
  have hself : UInt8.ofNat c.toNat ∈ String.utf8EncodeChar c := by
    rw [Utf8.utf8EncodeChar_of_lt hascii]
    exact List.mem_singleton_self _
  induction cs using decode.induct with
  | case1 high low rest a b hlow hhigh ih =>
    -- The digits of a byte are none of the character.
    have hrest : c ∈ rest := by
      simp only [List.mem_cons] at h
      rcases h with rfl | rfl | rfl | h
      · exact absurd rfl hsign
      · rw [hdigit] at hhigh
        cases hhigh
      · rw [hdigit] at hlow
        cases hlow
      · exact h
    simp only [decode, hhigh, hlow]
    exact List.mem_cons_of_mem _ (ih hrest)
  | case2 high low rest hnot ih =>
    have hdecode : decode ('%' :: high :: low :: rest) =
        String.utf8EncodeChar '%' ++ decode (high :: low :: rest) := by
      rw [decode]
      split
      · rename_i hhigh hlow
        exact absurd hlow (hnot _ _ hhigh)
      · rfl
    rw [hdecode]
    exact List.mem_append_right _ (ih ((List.mem_cons.1 h).resolve_left hsign))
  | case3 d rest hnot ih =>
    have hdecode : decode (d :: rest) = String.utf8EncodeChar d ++ decode rest := by
      rw [decode]
      exact hnot
    rw [hdecode, List.mem_append]
    rcases List.mem_cons.1 h with rfl | h
    · exact .inl hself
    · exact .inr (ih h)
  | case4 => cases h

end Percent

end Ingest
