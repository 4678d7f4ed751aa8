import Ingest.Proofs.Decimal.Finite
import Ingest.Proofs.Result
/-!
# Scaling by powers of ten

When a significand times a power of ten is a floating-point number: for all negative powers, and for
the others as long as the number is not too large.  What comes out is finite.
-/

namespace Ingest.Decimal

open Float.Model Float.Model.UnpackedFloat Ingest.Json

/-! ## Significands -/

theorem within_round_nat {n f g : Nat} (hf : f < 2 ^ 53)
    (hlargest : (f : ℚ) * 2 ^ (g : Int) ≤ largest) (h : n ≤ f * 2 ^ g) :
    Within ((f : ℚ) * 2 ^ (g : Int)) (UnpackedFloat.unpack binary64
      (UnpackedFloat.pack binary64 (UnpackedFloat.round binary64 .positive n 0))) := by
  obtain ⟨shift, hshift⟩ : ∃ shift : Nat,
      ((0 : Int) - binary64.targetExponent (totalExponent n 0)).toNat = shift := ⟨_, rfl⟩
  have hround : UnpackedFloat.round binary64 .positive n 0 =
      roundWithAccuracy binary64 .positive (n <<< shift) (0 - shift) .exact := by
    rw [UnpackedFloat.round, decreaseExponent, hshift]
  rw [hround]
  refine within_round hf (by omega) (by omega) hlargest ?_ _
  have hsize : ((n <<< shift : Nat) : ℚ) * 2 ^ ((0 : Int) - shift) = n := by
    rw [Nat.shiftLeft_eq, zero_sub, zpow_neg, zpow_natCast]
    push_cast
    exact mul_inv_cancel_right₀ (by positivity) _
  rw [slack, Nat.add_zero, hsize, zpow_natCast]
  exact_mod_cast h

theorem isWithin_toFloat {n f g : Nat} (hn : n < 2 ^ 64) (hf : f < 2 ^ 53)
    (hlargest : (f : ℚ) * 2 ^ (g : Int) ≤ largest) (h : n ≤ f * 2 ^ g) :
    IsWithin (UInt64.ofNat n).toFloat (f * 2 ^ (g : Int)) := by
  have htoNat : (UInt64.ofNat n).toNat = n := UInt64.toNat_ofNat_of_lt hn
  change Within _ (UnpackedFloat.unpack binary64 (UnpackedFloat.pack binary64
    (UnpackedFloat.normalize binary64 ((UInt64.ofNat n).toNat : Int) 0 .positive)))
  rw [htoNat, UnpackedFloat.normalize]
  rcases Nat.eq_zero_or_pos n with rfl | hpos
  · exact within_unpack_pack_zero _ _
  · rw [Int.compare_eq_gt.2 (by omega)]
    exact within_round_nat hf hlargest h

theorem two_pow_le_largest {g : Nat} (h : g ≤ 1022) :
    ((1 : Nat) : ℚ) * 2 ^ (g : Int) ≤ largest := by
  have hmost : ((1 : Nat) : ℚ) * 2 ^ (1022 : Int) ≤ largest :=
    scaled_add_le (a := 1) (b := 2 ^ 53 - 1) (e := 971) (j := 51) (by norm_num)
  refine le_trans (mul_le_mul_of_nonneg_left ?_ (Nat.cast_nonneg 1)) hmost
  exact zpow_le_zpow_right₀ one_le_two (by omega)

theorem isFinite_toFloat (u : UInt64) : u.toFloat.isFinite = true := by
  have hwithin := isWithin_toFloat (n := u.toNat) (f := 1) (g := 64) u.toNat_lt (by norm_num)
    (two_pow_le_largest (by norm_num)) (by rw [one_mul]; exact u.toNat_lt.le)
  rw [UInt64.ofNat_toNat] at hwithin
  exact hwithin.isFinite

/-! ## Powers of ten -/

theorem unpack_powerOfTen {e : Nat} (hlow : 22 < e) (hhigh : e ≤ 308) :
    (powerOfTen e).toModel.unpack = UnpackedFloat.unpack binary64 (UnpackedFloat.pack binary64
      (roundWithAccuracy binary64 (.positive * .positive) (1 <<< 53 * 10 ^ e) (-53) .exact)) := by
  rw [powerOfTen, Float.ofScientific, dif_neg (by omega)]
  change UnpackedFloat.unpack binary64 (UnpackedFloat.pack binary64
    (UnpackedFloat.ofScientific binary64 1 (e : Int))) = _
  rw [UnpackedFloat.ofScientific, dif_neg (by norm_num), if_neg, if_neg,
    if_pos (Int.natCast_nonneg e)]
  · rfl
  · change ¬((e : Int) < -((2 ^ 11 : Int) + (Nat.log2 1 : Nat)))
    omega
  · change ¬((e : Int) > 2 ^ 11)
    omega

def isMiddling (e : Nat) : Bool :=
  match (powerOfTen e).toModel.unpack with
  | .finite _ m x _ => x ≤ 900 && (e = 0 || 3 ≤ (m.log2 : Int) + x)
  | _ => false

theorem isMiddling_of_le : ∀ e ≤ 22, isMiddling e = true := by decide +kernel

theorem unpack_of_isMiddling {e : Nat} (h : e ≤ 22) : ∃ s m x hm,
    (powerOfTen e).toModel.unpack = .finite s m x hm ∧ x ≤ 900 ∧
      (0 < e → 3 ≤ (m.log2 : Int) + x) := by
  have hcheck := isMiddling_of_le e h
  unfold isMiddling at hcheck
  split at hcheck
  · rename_i s m x hm hunpack
    simp only [Bool.and_eq_true, Bool.or_eq_true, decide_eq_true_eq] at hcheck
    exact ⟨s, m, x, hm, hunpack, hcheck.1, fun hpos => hcheck.2.resolve_left hpos.ne'⟩
  · cases hcheck

theorem ten_pow_scaled {e f g : Nat} (h : 10 ^ e ≤ f * 2 ^ g) :
    ((1 <<< 53 * 10 ^ e + slack .exact : Nat) : ℚ) * 2 ^ (-53 : Int) ≤ f * 2 ^ (g : Int) := by
  have hshift : ((2 ^ 53 : Nat) : ℚ) * 2 ^ (-53 : Int) = 1 := by
    norm_num
  rw [slack, Nat.add_zero, Nat.shiftLeft_eq, one_mul, Nat.mul_comm, Nat.cast_mul, mul_assoc, hshift,
    mul_one, zpow_natCast]
  exact_mod_cast h

/-- The powers of ten up to this one leave room for a significand of 64 bits. -/
theorem isWithin_powerOfTen {e : Nat} (h : e ≤ 288) :
    IsWithin (powerOfTen e) (2 ^ (957 : Int)) := by
  by_cases hsmall : e ≤ 22
  · obtain ⟨s, m, x, hm, hunpack, hx, -⟩ := unpack_of_isMiddling hsmall
    have hsize := scaled_lt_two_zpow (e := x) (canonical_of_unpack hunpack).lt
    unfold IsWithin
    rw [hunpack]
    refine .finite hm (hsize.le.trans (zpow_le_zpow_right₀ one_le_two ?_))
    omega
  · have hmost : 10 ^ 288 ≤ 1 * 2 ^ 957 := by decide +kernel
    have hbound := ten_pow_scaled ((pow_le_pow_right₀ (by norm_num) h).trans hmost)
    have hround := within_round (by norm_num) (by norm_num) (by norm_num)
      (two_pow_le_largest (by norm_num)) hbound (.positive * .positive)
    rw [Nat.cast_one, one_mul] at hround
    unfold IsWithin
    rw [unpack_powerOfTen (by omega) (by omega)]
    exact hround

theorem powerOfTen_large {e : Nat} (hpos : 0 < e) (h : e ≤ 308) : ∃ s m x hm,
    (powerOfTen e).toModel.unpack = .finite s m x hm ∧ 3 ≤ (m.log2 : Int) + x := by
  by_cases hsmall : e ≤ 22
  · obtain ⟨s, m, x, hm, hunpack, -, hlarge⟩ := unpack_of_isMiddling hsmall
    exact ⟨s, m, x, hm, hunpack, hlarge hpos⟩
  · have hlong : 56 ≤ (1 <<< 53 * 10 ^ e).log2 := by
      have hten : 10 ^ 1 ≤ 10 ^ e := Nat.pow_le_pow_right (by norm_num) hpos
      rw [Nat.le_log2 (Nat.mul_ne_zero (by norm_num) (by positivity)), Nat.shiftLeft_eq]
      calc 2 ^ 56 ≤ 1 * 2 ^ 53 * 10 ^ 1 := by norm_num
        _ ≤ 1 * 2 ^ 53 * 10 ^ e := Nat.mul_le_mul_left _ hten
    have hmost : 10 ^ 308 ≤ (2 ^ 53 - 1) * 2 ^ 971 := by decide +kernel
    have hbound := ten_pow_scaled ((pow_le_pow_right₀ (by norm_num) h).trans hmost)
    obtain ⟨s, m, x, hm, hunpack, hlog, hx⟩ := unpack_round_normal (by omega) (by omega)
      (by norm_num) hbound (.positive * .positive)
    refine ⟨s, m, x, hm, ?_, by omega⟩
    rw [unpack_powerOfTen (by omega) h, hunpack]

/-! ## Products -/

/-- A significand and a power of two, within which a significand may be scaled by a large power of
ten. -/
def capacity (e : Nat) : Nat × Nat :=
  if e ≤ 289 then (1, 63) else if e = 290 then (1, 60) else if e = 291 then (1, 57)
  else if e = 292 then (8988465674311578, 1)
  else ((2 ^ 55 - 6) * 2 ^ 969 / 10 ^ e, 0)

def wholeLargest : Nat := (2 ^ 53 - 1) * 2 ^ 971

theorem wholeLargest_eq : (wholeLargest : ℚ) = largest := by
  rw [wholeLargest, largest, Nat.cast_mul, Nat.cast_pow]
  rfl

def holdsCapacity (e : Nat) : Bool :=
  match (powerOfTen e).toModel.unpack with
  | .finite _ m x _ => (capacity e).1 < 2 ^ 53 && 0 ≤ x &&
    (capacity e).1 * 2 ^ (capacity e).2 * (m * 2 ^ x.toNat) ≤ wholeLargest
  | _ => false

theorem holdsCapacity_of_le : ∀ i < 20, holdsCapacity (289 + i) = true := by decide +kernel

theorem isFinite_mul_powerOfTen_of_le {n e : Nat} (hn : n < 2 ^ 64) (he : e ≤ 288) :
    ((UInt64.ofNat n).toFloat * powerOfTen e).isFinite = true := by
  have hfactor := isWithin_toFloat (f := 1) (g := 64) hn (by norm_num)
    (two_pow_le_largest (by norm_num)) (by omega)
  refine isFinite_mul hfactor (isWithin_powerOfTen he) (by positivity) ?_
  have hmost := two_pow_le_largest (g := 1021) (by norm_num)
  rw [Nat.cast_one, one_mul] at hmost ⊢
  rwa [← zpow_add₀ two_ne_zero]

theorem scaled_le_largest {f g m x : Nat} (hm : 0 < m)
    (h : f * 2 ^ g * (m * 2 ^ x) ≤ wholeLargest) :
    (f : ℚ) * 2 ^ (g : Int) ≤ largest ∧
      (f : ℚ) * 2 ^ (g : Int) * (m * 2 ^ (x : Int)) ≤ largest := by
  have hfactor : 1 ≤ m * 2 ^ x := Nat.mul_pos hm (Nat.two_pow_pos x)
  have hless : f * 2 ^ g ≤ wholeLargest := (Nat.le_mul_of_pos_right _ hfactor).trans h
  rw [← wholeLargest_eq, zpow_natCast, zpow_natCast]
  exact ⟨by exact_mod_cast hless, by exact_mod_cast h⟩

theorem isFinite_mul_powerOfTen {n e : Nat} (hn : n < 2 ^ 64) (hlow : 289 ≤ e) (hhigh : e ≤ 308)
    (h : n ≤ (capacity e).1 * 2 ^ (capacity e).2) :
    ((UInt64.ofNat n).toFloat * powerOfTen e).isFinite = true := by
  have hcheck := holdsCapacity_of_le (e - 289) (by omega)
  rw [show 289 + (e - 289) = e by omega] at hcheck
  unfold holdsCapacity at hcheck
  split at hcheck
  · rename_i s m x hm hunpack
    simp only [Bool.and_eq_true, decide_eq_true_eq] at hcheck
    obtain ⟨⟨hf, hx⟩, hproduct⟩ := hcheck
    obtain ⟨x, rfl⟩ := Int.eq_ofNat_of_zero_le hx
    rw [Int.toNat_natCast] at hproduct
    obtain ⟨hcapacity, hsize⟩ := scaled_le_largest hm hproduct
    have hpower : IsWithin (powerOfTen e) (m * 2 ^ (x : Int)) := by
      unfold IsWithin
      rw [hunpack]
      exact .finite hm le_rfl
    have hnonneg := mul_nonneg (Nat.cast_nonneg (α := ℚ) (capacity e).1)
      (two_zpow_pos ((capacity e).2 : Int)).le
    exact isFinite_mul (isWithin_toFloat hn hf hcapacity h) hpower hnonneg hsize
  · cases hcheck

/-! ## Scaling -/

theorem isFinite_divideByPower {x : Float} (hx : x.isFinite = true) {e : Nat} (he : 0 < e) :
    (divideByPower x e).isFinite = true := by
  induction e using Nat.strongRecOn generalizing x with
  | ind e ih =>
    rw [divideByPower]
    split
    · rename_i hsmall
      obtain ⟨s, m, y, hm, hunpack, hlarge⟩ := powerOfTen_large he hsmall
      exact isFinite_div hx hunpack hlarge
    · rename_i hlarge
      obtain ⟨s, m, y, hm, hunpack, hpower⟩ :=
        powerOfTen_large (e := largestPower) (by decide) le_rfl
      rw [largestPower] at hlarge
      split
      · exact hx
      · exact ih _ (by rw [largestPower]; omega) (isFinite_div hx hunpack hpower)
          (by rw [largestPower]; omega)

theorem isFinite_mul_of_not_isInf {x y : Float} (hx : x.isFinite = true) (hy : y.isFinite = true)
    (h : (x * y).isInf = false) : (x * y).isFinite = true := by
  have hproduct : (UnpackedFloat.mul binary64 x.toModel.unpack y.toModel.unpack).isNaN = false := by
    obtain ⟨s, hx⟩ | ⟨s, m, e, hm, hx, -⟩ := (isWithin_largest hx).unpack_cases <;>
      obtain ⟨s', hy⟩ | ⟨s', m', e', hm', hy, -⟩ := (isWithin_largest hy).unpack_cases <;>
      rw [hx, hy]
    · rfl
    · rfl
    · rfl
    · rw [UnpackedFloat.mul, round_eq _ _ _ _ rfl rfl]
      split <;> rfl
  rcases isInf_or_isFinite_pack hproduct with hinf | hfinite
  · change (x * y).isInf = true at hinf
    rw [h] at hinf
    cases hinf
  · exact hfinite

theorem isFinite_powerOfTen {e : Nat} (h : e ≤ 308) : (powerOfTen e).isFinite = true := by
  rcases Nat.eq_zero_or_pos e with rfl | hpos
  · exact (isWithin_powerOfTen (by norm_num)).isFinite
  · obtain ⟨s, m, x, hm, hunpack, -⟩ := powerOfTen_large hpos h
    change (powerOfTen e).toModel.unpack.isFinite = true
    rw [hunpack]
    rfl

/-- What is scaled is finite. -/
theorem isFinite_of_scale {significand : Nat} {exponent : Int} {x : Float}
    (h : scale significand exponent = .ok x) : x.isFinite = true := by
  have hfactor := isFinite_toFloat (UInt64.ofNat significand)
  simp only [scale] at h
  split at h
  · cases h
    exact isFinite_divideByPower hfactor (by omega)
  · split at h
    · rename_i hsmall
      obtain ⟨hinf, hx⟩ := unless_eq_ok_iff.1 h
      cases hx
      exact isFinite_mul_of_not_isInf hfactor (isFinite_powerOfTen hsmall)
        (Bool.eq_false_iff.2 hinf)
    · split at h
      · cases h
        exact hfactor
      · cases h

/-- A significand and a power of ten that are scaled to a number: those that are not larger than
the numbers below the last but one power of two, those on a coarse grid, and the ones that the
largest number is written with. -/
inductive IsScalable (significand : Nat) : Nat → Prop where
  | below {e : Nat} : significand * 10 ^ e ≤ 2 ^ 1023 → IsScalable significand e
  | coarse {e : Nat} : 292 ≤ e → significand * 10 ^ e ≤ (2 ^ 55 - 6) * 2 ^ 969 →
      IsScalable significand e
  | largest : significand = 17976931348623157 → IsScalable significand 292

theorem holds_capacity : ∀ i < 20, 2 ^ 1023 / 10 ^ (289 + i) ≤
    (capacity (289 + i)).1 * 2 ^ (capacity (289 + i)).2 ∧
      (292 ≤ 289 + i → (2 ^ 55 - 6) * 2 ^ 969 / 10 ^ (289 + i) ≤
        (capacity (289 + i)).1 * 2 ^ (capacity (289 + i)).2) := by
  decide +kernel

theorem le_capacity {n e : Nat} (hlow : 289 ≤ e) (hhigh : e ≤ 308)
    (h : n * 10 ^ e ≤ 2 ^ 1023 ∨ 292 ≤ e ∧ n * 10 ^ e ≤ (2 ^ 55 - 6) * 2 ^ 969) :
    n ≤ (capacity e).1 * 2 ^ (capacity e).2 := by
  obtain ⟨hbelow, hcoarse⟩ := holds_capacity (e - 289) (by omega)
  rw [show 289 + (e - 289) = e by omega] at hbelow hcoarse
  have hten : 0 < 10 ^ e := by positivity
  rcases h with h | ⟨he, h⟩
  · exact ((Nat.le_div_iff_mul_le hten).2 h).trans hbelow
  · exact ((Nat.le_div_iff_mul_le hten).2 h).trans (hcoarse he)

theorem scale_of_isFinite {n e : Nat} (he : e ≤ 308)
    (h : ((UInt64.ofNat n).toFloat * powerOfTen e).isFinite = true) :
    ∃ x, scale n e = .ok x := by
  have hinf : ((UInt64.ofNat n).toFloat * powerOfTen e).isInf = false := by
    change ((UInt64.ofNat n).toFloat * powerOfTen e).toModel.unpack.isInf = false
    change ((UInt64.ofNat n).toFloat * powerOfTen e).toModel.unpack.isFinite = true at h
    cases hunpack : ((UInt64.ofNat n).toFloat * powerOfTen e).toModel.unpack <;>
      rw [hunpack] at h <;> first | rfl | cases h
  refine ⟨(UInt64.ofNat n).toFloat * powerOfTen e, ?_⟩
  rw [scale]
  dsimp only
  rw [if_neg (by omega), Int.toNat_natCast, if_pos (show e ≤ largestPower from he), hinf,
    if_neg Bool.false_ne_true]

theorem scale_zero {e : Nat} (he : 288 < e) : ∃ x, scale 0 e = .ok x := by
  by_cases hsmall : e ≤ 308
  · exact scale_of_isFinite hsmall (isFinite_mul_powerOfTen (by norm_num) he hsmall (Nat.zero_le _))
  · have hzero : ((UInt64.ofNat 0).toFloat == 0.0) = true := by decide +kernel
    refine ⟨(UInt64.ofNat 0).toFloat, ?_⟩
    rw [scale]
    dsimp only
    rw [if_neg (by omega), Int.toNat_natCast, if_neg (show ¬e ≤ largestPower from hsmall), hzero,
      if_pos rfl]

theorem le_of_mul_ten_pow_lt {n e bound : Nat} (hn : 0 < n) (h : n * 10 ^ e ≤ bound)
    (hbound : bound < 10 ^ 309) : e ≤ 308 := by
  have hpow : 10 ^ e < 10 ^ 309 := (Nat.le_mul_of_pos_left _ hn).trans_lt (h.trans_lt hbound)
  have he := (Nat.pow_lt_pow_iff_right (by norm_num)).1 hpow
  omega

theorem exists_of_isOk {ε α : Type} {r : Except ε α} (h : r.isOk = true) : ∃ a, r = .ok a := by
  cases r with
  | error e => cases h
  | ok a => exact ⟨a, rfl⟩

theorem isOk_scale_largest : (scale 17976931348623157 (292 : Nat)).isOk = true := by decide +kernel

/-- The significands are scaled by negative powers, and by the others within bounds. -/
theorem scale_ok {significand : Nat} (hn : significand ≤ maxSignificand) {exponent : Int}
    (h : ∀ e : Nat, exponent = e → IsScalable significand e) :
    ∃ x, scale significand exponent = .ok x := by
  have hlt : significand < 2 ^ 64 := by
    unfold maxSignificand at hn
    omega
  by_cases hneg : exponent < 0
  · rw [scale, if_pos hneg]
    exact ⟨_, rfl⟩
  · obtain ⟨e, rfl⟩ := Int.eq_ofNat_of_zero_le (Int.not_lt.1 hneg)
    by_cases hroom : e ≤ 288
    · exact scale_of_isFinite (by omega) (isFinite_mul_powerOfTen_of_le hlt hroom)
    · rcases Nat.eq_zero_or_pos significand with rfl | hpos
      · exact scale_zero (by omega)
      · cases h e rfl with
        | below hbelow =>
          have he := le_of_mul_ten_pow_lt hpos hbelow (by decide +kernel)
          exact scale_of_isFinite he
            (isFinite_mul_powerOfTen hlt (by omega) he (le_capacity (by omega) he (.inl hbelow)))
        | coarse hlow hcoarse =>
          have he := le_of_mul_ten_pow_lt hpos hcoarse (by decide +kernel)
          exact scale_of_isFinite he (isFinite_mul_powerOfTen hlt (by omega) he
            (le_capacity (by omega) he (.inr ⟨hlow, hcoarse⟩)))
        | largest hlargest =>
          subst hlargest
          exact exists_of_isOk isOk_scale_largest

end Ingest.Decimal
