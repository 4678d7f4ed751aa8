import Ingest.Text.Percent
/-!
# Percent-encoding read back

A text that was encoded by a class with the percent sign in it is decoded to its own UTF-8 bytes,
whatever else the class holds.  A class with the slash in it leaves no slash in what is encoded, so
slashes can separate encoded texts.
-/

namespace Ingest

theorem Utf8.decode?_encode (s : String) : Utf8.decode? (Utf8.encode s) = some s := by
  have hbytes : (⟨(Utf8.encode s).toArray⟩ : ByteArray) = s.toByteArray := by
    have hlist : (String.ofList s.toList).toByteArray = s.toByteArray := by rw [String.ofList_toList]
    rw [← hlist]
    exact ByteArray.ext List.data_toByteArray.symm
  unfold Utf8.decode? String.fromUTF8?
  rw [hbytes, dif_pos s.isValidUTF8]
  rfl

namespace Percent

/-! ## Decoding -/

theorem high_lt (b : UInt8) : b.toNat / 16 < 16 := by
  have hbyte := b.toNat_lt
  omega

theorem decode_encodeByte (b : UInt8) (rest : List Char) :
    decode (encodeByte b ++ rest) = b :: decode rest := by
  have hlow : b.toNat % 16 < 16 := Nat.mod_lt _ (by decide)
  have hvalue : b.toNat / 16 * 16 + b.toNat % 16 = b.toNat := by omega
  simp only [encodeByte, List.cons_append, List.nil_append, decode, Hex.value?_upper (high_lt b),
    Hex.value?_upper hlow, hvalue, UInt8.ofNat_toNat]

theorem decode_encodeBytes (bytes : Bytes) (rest : List Char) :
    decode (bytes.flatMap encodeByte ++ rest) = bytes ++ decode rest := by
  induction bytes with
  | nil => rfl
  | cons b bytes ih =>
      rw [List.flatMap_cons, List.append_assoc, decode_encodeByte, ih, List.cons_append]

theorem decode_cons {c : Char} (h : c ≠ '%') (rest : List Char) :
    decode (c :: rest) = String.utf8EncodeChar c ++ decode rest := by
  rw [decode.eq_def]
  split
  · rename_i heq
    exact absurd (List.cons.inj heq).1 h
  · rename_i heq
    obtain ⟨rfl, rfl⟩ := List.cons.inj heq
    rfl
  · rename_i heq
    cases heq

variable {escaped : Char → Bool}

theorem decode_encodeChar (hpercent : escaped '%' = true) (c : Char) (rest : List Char) :
    decode (encodeChar escaped c ++ rest) = String.utf8EncodeChar c ++ decode rest := by
  unfold encodeChar
  by_cases hc : (escaped c || 0x80 ≤ c.toNat) = true
  · rw [if_pos hc, decode_encodeBytes]
  · rw [if_neg hc]
    have hne : c ≠ '%' := by
      rintro rfl
      rw [hpercent] at hc
      exact hc rfl
    exact decode_cons hne rest

theorem decode_encode (hpercent : escaped '%' = true) (cs : List Char) :
    decode (encode escaped cs) = cs.flatMap String.utf8EncodeChar := by
  induction cs with
  | nil => rfl
  | cons c cs ih =>
      have hcons : encode escaped (c :: cs) = encodeChar escaped c ++ encode escaped cs := rfl
      rw [hcons, decode_encodeChar hpercent, ih, List.flatMap_cons]

/-- An encoded text is read back as it was. -/
theorem text_encode (hpercent : escaped '%' = true) (cs : List Char) :
    Utf8.decode? (decode (encode escaped cs)) = some (String.ofList cs) := by
  have hbytes : cs.flatMap String.utf8EncodeChar = Utf8.encode (String.ofList cs) := by
    rw [Utf8.encode, String.toList_ofList]
  rw [decode_encode hpercent, hbytes, Utf8.decode?_encode]

/-! ## What is in an encoded text -/

/-- A character is in an encoded text for itself, unless it is one that bytes are written with. -/
theorem mem_of_mem_encode {c : Char} {cs : List Char} (hsign : c ≠ '%')
    (hdigit : ∀ n < 16, c ≠ Hex.upper n) (h : c ∈ encode escaped cs) :
    c ∈ cs ∧ escaped c = false := by
  have hbyte : ∀ b, c ∉ encodeByte b := by
    intro b hb
    simp only [encodeByte, List.mem_cons, List.not_mem_nil, or_false] at hb
    rcases hb with hb | hb | hb
    · exact hsign hb
    · exact hdigit _ (high_lt b) hb
    · exact hdigit _ (Nat.mod_lt _ (by decide)) hb
  obtain ⟨d, hd, hc⟩ := List.mem_flatMap.1 h
  unfold encodeChar at hc
  by_cases hclass : (escaped d || 0x80 ≤ d.toNat) = true
  · rw [if_pos hclass] at hc
    obtain ⟨b, -, hb⟩ := List.mem_flatMap.1 hc
    exact absurd hb (hbyte b)
  · rw [if_neg hclass, List.mem_singleton] at hc
    subst hc
    simp only [Bool.or_eq_true, not_or, Bool.not_eq_true] at hclass
    exact ⟨hd, hclass.1⟩

theorem slash_not_mem_encode (hslash : escaped '/' = true) (cs : List Char) :
    '/' ∉ encode escaped cs := by
  intro h
  have hplain := (mem_of_mem_encode (by decide) (by decide) h).2
  rw [hslash] at hplain
  cases hplain

end Percent

end Ingest
