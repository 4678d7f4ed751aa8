import Ingest.Json.Number
import Ingest.Proofs.Decimal.Rounding
/-!
# Finite floating-point numbers

Sizes of floating-point numbers, apart from their signs: what a product and a quotient may come to,
and the powers of ten.  A quotient by ten or more is finite, and so is a product that is not larger
than the largest number.
-/

namespace Ingest.Decimal

open Float.Model Float.Model.UnpackedFloat

/-! ## Numbers taken apart -/

/-- A number that has been taken apart has as many places as it can, and an exponent that there
is. -/
structure Canonical (m : Nat) (e : Int) : Prop where
  lt : m < 2 ^ 53
  low : -1074 ≤ e
  high : e ≤ 971
  normal : 2 ^ 52 ≤ m ∨ e = -1074

theorem canonical_of_unpack {b : BitVec 64} {s : Sign} {m : Nat} {e : Int} {hm : 0 < m}
    (h : UnpackedFloat.unpack binary64 b = .finite s m e hm) : Canonical m e := by
  have hexponent : (@unpackExponent binary64 b).toNat < 2 ^ 11 :=
    (@unpackExponent binary64 b).isLt
  have hmantissa : (@unpackMantissa binary64 b).toNat < 2 ^ 52 :=
    (@unpackMantissa binary64 b).isLt
  unfold UnpackedFloat.unpack at h
  dsimp only at h
  split at h
  · split at h <;> cases h
  · rename_i hinfinite
    have hne : (@unpackExponent binary64 b).toNat ≠ 2047 := by
      intro heq
      exact hinfinite (BitVec.eq_of_toNat_eq heq)
    have hbias : (binary64.exponentBias + binary64.mantissaBitsWithoutImplicit : Int) = 1075 := rfl
    split at h
    · rename_i hzero
      split at h
      · cases h
      · have hnone : (@unpackExponent binary64 b).toNat = 0 := congrArg BitVec.toNat hzero
        injection h with _ hm he
        rw [hbias, hnone] at he
        exact ⟨by omega, by omega, by omega, .inr (by omega)⟩
    · rename_i hzero
      have hpos : (@unpackExponent binary64 b).toNat ≠ 0 := by
        intro heq
        exact hzero (BitVec.eq_of_toNat_eq heq)
      injection h with _ hm he
      rw [toNat_one_append] at hm
      rw [hbias] at he
      exact ⟨by omega, by omega, by omega, .inl (by omega)⟩

/-- Only infinity and what is no number have the largest exponent. -/
theorem isFinite_unpack_iff {b : BitVec 64} :
    (UnpackedFloat.unpack binary64 b).isFinite = true ↔
      @unpackExponent binary64 b ≠ -1#11 := by
  unfold UnpackedFloat.unpack
  dsimp only
  split
  · rename_i hexponent
    refine iff_of_false ?_ (not_not.2 hexponent)
    split <;> exact Bool.false_ne_true
  · rename_i hexponent
    refine iff_of_true ?_ hexponent
    split
    · split <;> rfl
    · rfl

/-- What is packed is infinite or finite, if it is a number. -/
theorem isInf_or_isFinite_pack {u : UnpackedFloat} (h : u.isNaN = false) :
    (UnpackedFloat.unpack binary64 (UnpackedFloat.pack binary64 u)).isInf = true ∨
      (UnpackedFloat.unpack binary64 (UnpackedFloat.pack binary64 u)).isFinite = true := by
  have hinfinity : ∀ s,
      (UnpackedFloat.unpack binary64 (packedInfinity binary64 s)).isInf = true := by
    intro s
    unfold UnpackedFloat.unpack packedInfinity
    simp only [unpackMantissa_packComponents, unpackExponent_packComponents, if_true]
    rfl
  cases u with
  | notANumber => cases h
  | infinity s => exact .inl (hinfinity s)
  | zero s => exact .inr (within_unpack_pack_zero 0 s).isFinite
  | finite s m e hm =>
    rw [UnpackedFloat.pack]
    dsimp only
    split
    · exact .inl (hinfinity s)
    · rename_i hsmall
      refine .inr (isFinite_unpack_iff.2 ?_)
      split
      · rw [unpackExponent_packComponents]
        exact ofNat_ne_neg_one (Nat.lt_of_not_le hsmall)
      · rw [unpackExponent_packComponents]
        decide

/-! ## Bounds -/

def IsWithin (x : Float) (bound : ℚ) : Prop := Within bound x.toModel.unpack

theorem IsWithin.isFinite {x : Float} {bound : ℚ} (h : IsWithin x bound) : x.isFinite = true :=
  Within.isFinite h

theorem Canonical.le_largest {m : Nat} {e : Int} (h : Canonical m e) :
    (m : ℚ) * 2 ^ e ≤ largest := by
  have hm : m ≤ 2 ^ 53 - 1 := Nat.le_sub_one_of_lt h.lt
  refine mul_le_mul ?_ (zpow_le_zpow_right₀ one_le_two h.high) (two_zpow_pos e).le
    (Nat.cast_nonneg _)
  exact_mod_cast hm

theorem isWithin_largest {x : Float} (h : x.isFinite = true) : IsWithin x largest := by
  have hfinite : x.toModel.unpack.isFinite = true := h
  unfold IsWithin
  cases hx : x.toModel.unpack with
  | zero s => exact .zero s
  | finite s m e hm => exact .finite hm (canonical_of_unpack hx).le_largest
  | infinity s =>
    rw [hx] at hfinite
    cases hfinite
  | notANumber =>
    rw [hx] at hfinite
    cases hfinite

theorem IsWithin.unpack_cases {x : Float} {bound : ℚ} (h : IsWithin x bound) :
    (∃ s, x.toModel.unpack = .zero s) ∨ ∃ s m e hm, x.toModel.unpack = .finite s m e hm ∧
      Canonical m e ∧ (m : ℚ) * 2 ^ e ≤ bound := by
  unfold IsWithin at h
  cases hx : x.toModel.unpack with
  | zero s => exact .inl ⟨s, rfl⟩
  | finite s m e hm =>
    rw [hx] at h
    cases h with
    | finite _ hbound => exact .inr ⟨s, m, e, hm, rfl, canonical_of_unpack hx, hbound⟩
  | infinity | notANumber =>
    rw [hx] at h
    cases h

theorem Canonical.add_le {m m' : Nat} {e e' : Int} (h : Canonical m e) (h' : Canonical m' e')
    (hsize : ((m * m' : Nat) : ℚ) * 2 ^ (e + e') ≤ largest) : e + e' ≤ 971 := by
  obtain ⟨-, -, hhigh, hnormal⟩ := h
  obtain ⟨-, -, hhigh', hnormal'⟩ := h'
  rcases hnormal with hm | rfl
  · rcases hnormal' with hm' | rfl
    · have hmm : 2 ^ 52 * 2 ^ 52 ≤ m * m' := Nat.mul_le_mul hm hm'
      have hpow : (2 : ℚ) ^ (104 + (e + e')) < 2 ^ (1024 : Int) := by
        refine lt_of_le_of_lt ?_ (hsize.trans_lt largest_lt)
        rw [zpow_add₀ two_ne_zero]
        refine mul_le_mul_of_nonneg_right ?_ (two_zpow_pos _).le
        exact_mod_cast hmm
      have hexp := (zpow_lt_zpow_iff_right₀ one_lt_two).1 hpow
      omega
    · omega
  · omega

theorem isFinite_mul {x y : Float} {a b : ℚ} (hx : IsWithin x a) (hy : IsWithin y b)
    (ha : 0 ≤ a) (hab : a * b ≤ largest) : (x * y).isFinite = true := by
  change (UnpackedFloat.unpack binary64 (UnpackedFloat.pack binary64
    (UnpackedFloat.mul binary64 x.toModel.unpack y.toModel.unpack))).isFinite = true
  obtain ⟨s, hx⟩ | ⟨s, m, e, hm, hx, hcanonical, hsize⟩ := hx.unpack_cases
  · obtain ⟨s', hy⟩ | ⟨s', m', e', hm', hy, -⟩ := hy.unpack_cases <;> rw [hx, hy]
    · exact (within_unpack_pack_zero 0 _).isFinite
    · exact (within_unpack_pack_zero 0 _).isFinite
  · obtain ⟨s', hy⟩ | ⟨s', m', e', hm', hy, hcanonical', hsize'⟩ := hy.unpack_cases <;> rw [hx, hy]
    · exact (within_unpack_pack_zero 0 _).isFinite
    · have hproduct : ((m * m' : Nat) : ℚ) * 2 ^ (e + e') ≤ largest := by
        refine le_trans ?_ hab
        rw [zpow_add₀ two_ne_zero, Nat.cast_mul, mul_mul_mul_comm]
        exact mul_le_mul hsize hsize' (by positivity) ha
      have hround := @within_round (m * m') (e + e') .exact (2 ^ 53 - 1) 971 (by norm_num)
        (by norm_num) (hcanonical.add_le hcanonical' hproduct) le_rfl hproduct (s * s')
      exact hround.isFinite

theorem isFinite_neg {x : Float} (hx : x.isFinite = true) : (-x).isFinite = true := by
  change (UnpackedFloat.unpack binary64 (UnpackedFloat.pack binary64
    (UnpackedFloat.neg x.toModel.unpack))).isFinite = true
  obtain ⟨s, hx⟩ | ⟨s, m, e, hm, hx, hcanonical, -⟩ := (isWithin_largest hx).unpack_cases <;>
    rw [hx]
  · exact (within_unpack_pack_zero 0 _).isFinite
  · exact (within_unpack_pack hcanonical.low hcanonical.high).isFinite

/-- A quotient by eight or more does not reach the largest exponent, even when rounded up. -/
theorem quotient_le {m m' : Nat} {e e' target : Int} {shift : Nat} (h : Canonical m e)
    (hlarge : 3 ≤ m'.log2 + e') (hm' : 0 < m') (htarget : target ≤ 967)
    (hshift : target + shift = e - e') (acc : Accuracy) :
    (((m <<< shift) / m' + slack acc : Nat) : ℚ) * 2 ^ target ≤ (1 : Nat) * 2 ^ (1022 : Int) := by
  have hwhole : (m <<< shift) / m' * 2 ^ m'.log2 ≤ m * 2 ^ shift := by
    rw [Nat.shiftLeft_eq]
    exact (Nat.mul_le_mul_left _ (Nat.log2_self_le hm'.ne')).trans (Nat.div_mul_le_self _ _)
  have hquotient : (((m <<< shift) / m' : Nat) : ℚ) * 2 ^ target ≤ 2 ^ (1021 : Int) := by
    have hscaled : (((m <<< shift) / m' : Nat) : ℚ) * 2 ^ (target + m'.log2) ≤
        m * 2 ^ (target + shift) := by
      rw [zpow_add₀ two_ne_zero, zpow_add₀ two_ne_zero, zpow_natCast, zpow_natCast,
        mul_left_comm, mul_left_comm (m : ℚ), mul_le_mul_iff_right₀ (two_zpow_pos target)]
      exact_mod_cast hwhole
    have hsize := (hscaled.trans_lt (scaled_lt_two_zpow h.lt)).le
    rw [← mul_le_mul_iff_left₀ (two_zpow_pos m'.log2), mul_assoc, ← zpow_add₀ two_ne_zero,
      ← zpow_add₀ two_ne_zero]
    refine hsize.trans (zpow_le_zpow_right₀ one_le_two ?_)
    have hhigh := h.high
    omega
  have hslack : (slack acc : ℚ) * 2 ^ target ≤ 2 ^ (1021 : Int) := by
    have hone : (slack acc : ℚ) ≤ 1 := by cases acc <;> simp [slack]
    calc (slack acc : ℚ) * 2 ^ target ≤ 1 * 2 ^ (1021 : Int) :=
          mul_le_mul hone (zpow_le_zpow_right₀ one_le_two (by omega)) (two_zpow_pos _).le one_pos.le
      _ = 2 ^ (1021 : Int) := one_mul _
  calc (((m <<< shift) / m' + slack acc : Nat) : ℚ) * 2 ^ target
      = (((m <<< shift) / m' : Nat) : ℚ) * 2 ^ target + slack acc * 2 ^ target := by
        rw [Nat.cast_add, add_mul]
    _ ≤ 2 ^ (1021 : Int) + 2 ^ (1021 : Int) := add_le_add hquotient hslack
    _ = (1 : Nat) * 2 ^ (1022 : Int) := by
        rw [← two_mul, ← zpow_one_add₀ two_ne_zero, Nat.cast_one, one_mul]
        rfl

theorem isFinite_div {x y : Float} (hx : x.isFinite = true) {s' : Sign} {m' : Nat} {e' : Int}
    {hm' : 0 < m'} (hy : y.toModel.unpack = .finite s' m' e' hm') (hlarge : 3 ≤ m'.log2 + e') :
    (x / y).isFinite = true := by
  change (UnpackedFloat.unpack binary64 (UnpackedFloat.pack binary64
    (UnpackedFloat.div binary64 x.toModel.unpack y.toModel.unpack))).isFinite = true
  obtain ⟨s, hx⟩ | ⟨s, m, e, hm, hx, hcanonical, hsize⟩ := (isWithin_largest hx).unpack_cases
  · rw [hx, hy]
    exact (within_unpack_pack_zero 0 _).isFinite
  · rw [hx, hy]
    let target := min (e - e')
      (binary64.targetExponent (totalExponent m e - totalExponent m' e'))
    have hlog : m.log2 < 53 := (Nat.log2_lt hm.ne').2 hcanonical.lt
    have hhigh := hcanonical.high
    have htarget : target ≤ 967 := by
      refine (min_le_right _ _).trans ?_
      rw [targetExponent_eq, totalExponent, totalExponent]
      omega
    have hshift : target + ((e - e' - target).toNat : Nat) = e - e' := by
      have hle : target ≤ e - e' := min_le_left _ _
      omega
    have hlargest : ((1 : Nat) : ℚ) * 2 ^ (1022 : Int) ≤ largest :=
      (scaled_add_le (a := 1) (b := 2 ^ 53 - 1) (e := 971) (j := 51) (by norm_num))
    have hround := within_round (by norm_num) (by norm_num) (by omega) hlargest
      (quotient_le hcanonical hlarge hm' htarget hshift
        (accuracyOfFraction ((m <<< (e - e' - target).toNat) % m') m')) (s / s')
    exact hround.isFinite

end Ingest.Decimal
