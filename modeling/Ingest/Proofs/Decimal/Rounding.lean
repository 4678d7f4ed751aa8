import Mathlib
/-!
# Rounding of floating-point numbers

A number that lies within a bound is rounded to one that lies within it too, if the bound is itself
a floating-point number.  So what is not larger than the largest floating-point number is rounded to
a finite one.
-/

namespace Ingest.Decimal

open Float.Model Float.Model.UnpackedFloat

abbrev binary64 : Format := Format.binary64

/-! ## Numbers with a significand and an exponent -/

section Scaled

variable {a b : Nat} {e : Int}

theorem two_zpow_pos (e : Int) : (0 : ℚ) < 2 ^ e := zpow_pos two_pos e

theorem scaled_le_iff {j : Nat} : (a : ℚ) * 2 ^ e ≤ b * 2 ^ (e + j) ↔ a ≤ b * 2 ^ j := by
  rw [zpow_add₀ two_ne_zero, zpow_natCast, mul_left_comm, mul_comm (a : ℚ),
    mul_le_mul_iff_right₀ (two_zpow_pos e)]
  exact_mod_cast Iff.rfl

theorem scaled_add_le {j : Nat} (h : a * 2 ^ j ≤ b) : (a : ℚ) * 2 ^ (e + j) ≤ b * 2 ^ e := by
  rw [zpow_add₀ two_ne_zero, zpow_natCast, mul_comm ((2 : ℚ) ^ e), ← mul_assoc,
    mul_le_mul_iff_left₀ (two_zpow_pos e)]
  exact_mod_cast h

theorem two_zpow_le_scaled (ha : a ≠ 0) : (2 : ℚ) ^ (a.log2 + e) ≤ a * 2 ^ e := by
  rw [zpow_add₀ two_ne_zero, zpow_natCast, mul_le_mul_iff_left₀ (two_zpow_pos e)]
  exact_mod_cast Nat.log2_self_le ha

theorem scaled_lt_two_zpow {n : Nat} (ha : a < 2 ^ n) : (a : ℚ) * 2 ^ e < 2 ^ (n + e) := by
  rw [zpow_add₀ two_ne_zero, zpow_natCast, mul_lt_mul_iff_left₀ (two_zpow_pos e)]
  exact_mod_cast ha

end Scaled

/-! ## Shifting -/

theorem targetExponent_eq (t : Int) : binary64.targetExponent t = max (t - 53) (-1074) := rfl

def places (m : Nat) (e : Int) : Nat :=
  (binary64.targetExponent (totalExponent m e) - e).toNat

theorem places_eq (m : Nat) (e : Int) : places m e = (max (m.log2 + e - 52) (-1074) - e).toNat := by
  rw [places, targetExponent_eq, totalExponent]
  congr 3
  omega

theorem mantissa_shift (em : ExtendedMantissa) (k : Nat) :
    (em >>> k).mantissa = em.mantissa / 2 ^ k := by
  induction k with
  | zero => exact (Nat.div_one _).symm
  | succ k ih =>
    change (em >>> k).mantissa / 2 = _
    rw [ih, Nat.div_div_eq_div_mul, Nat.pow_succ]

theorem rounded_le (em : ExtendedMantissa) : em.roundedMantissa ≤ em.mantissa + 1 := by
  obtain ⟨m, r, s⟩ := em
  cases r <;> cases s <;>
    simp only [ExtendedMantissa.roundedMantissa, ExtendedMantissa.accuracy,
      Accuracy.roundToNearestEven]
  all_goals omega

theorem le_rounded (em : ExtendedMantissa) : em.mantissa ≤ em.roundedMantissa := by
  obtain ⟨m, r, s⟩ := em
  cases r <;> cases s <;>
    simp only [ExtendedMantissa.roundedMantissa, ExtendedMantissa.accuracy,
      Accuracy.roundToNearestEven]
  all_goals omega

theorem shift_exact (m k : Nat) :
    (⟨m * 2 ^ k, false, false⟩ : ExtendedMantissa) >>> k = ⟨m, false, false⟩ := by
  induction k generalizing m with
  | zero =>
    change (⟨m * 2 ^ 0, false, false⟩ : ExtendedMantissa) = _
    rw [Nat.pow_zero, Nat.mul_one]
  | succ k ih =>
    have hk : m * 2 ^ (k + 1) = m * 2 * 2 ^ k := by ring
    change ((⟨m * 2 ^ (k + 1), false, false⟩ : ExtendedMantissa) >>> k).shiftRightOne = _
    rw [hk, ih]
    simp [ExtendedMantissa.shiftRightOne]

/-- How far above a significand the number may lie that it stands for, rounded up. -/
def slack : Accuracy → Nat
  | .exact => 0
  | .inexact _ => 1

theorem mantissa_ofMantissaAndAccuracy (m : Nat) (acc : Accuracy) :
    (ExtendedMantissa.ofMantissaAndAccuracy m acc).mantissa = m := by
  rcases acc with _ | o
  · rfl
  · cases o <;> rfl

theorem rounded_shift_le {m k q : Nat} {acc : Accuracy} (h : m + slack acc ≤ q * 2 ^ k) :
    (ExtendedMantissa.ofMantissaAndAccuracy m acc >>> k).roundedMantissa ≤ q := by
  have hrounded := rounded_le (ExtendedMantissa.ofMantissaAndAccuracy m acc >>> k)
  rw [mantissa_shift, mantissa_ofMantissaAndAccuracy] at hrounded
  rcases Nat.lt_or_eq_of_le (Nat.le_of_add_right_le h) with hlt | rfl
  · have hdiv : m / 2 ^ k < q := (Nat.div_lt_iff_lt_mul (Nat.two_pow_pos k)).2 hlt
    omega
  · cases acc with
    | exact =>
      change ((⟨q * 2 ^ k, false, false⟩ : ExtendedMantissa) >>> k).roundedMantissa ≤ q
      rw [shift_exact]
      exact Nat.le_refl q
    | inexact o =>
      rw [slack] at h
      omega

/-! ## Bounds -/

def largest : ℚ := ((2 ^ 53 - 1 : Nat) : ℚ) * 2 ^ (971 : Int)

theorem largest_lt : largest < 2 ^ (1024 : Int) := scaled_lt_two_zpow (n := 53) (by norm_num)

section Bounds

variable {m : Nat} {e : Int} {acc : Accuracy} {f : Nat} {g : Int}

/-- Shifting to a new place does not go beyond the exponent of a bound. -/
theorem add_places_le (hf : f < 2 ^ 53) (hg : -1074 ≤ g) (h : (m : ℚ) * 2 ^ e ≤ f * 2 ^ g)
    (hplaces : places m e ≠ 0) : e + places m e ≤ g := by
  rw [places_eq] at hplaces ⊢
  by_contra hlt
  have hm : m ≠ 0 := by
    rintro rfl
    simp only [Nat.log2_zero] at hplaces hlt
    omega
  have hpow : (2 : ℚ) ^ (m.log2 + e) < 2 ^ (53 + g) :=
    ((two_zpow_le_scaled hm).trans h).trans_lt (scaled_lt_two_zpow hf)
  have hexp : (m.log2 : Int) + e < 53 + g := (zpow_lt_zpow_iff_right₀ one_lt_two).1 hpow
  omega

def rounded (m : Nat) (e : Int) (acc : Accuracy) : Nat :=
  (ExtendedMantissa.ofMantissaAndAccuracy m acc >>> places m e).roundedMantissa

/-- A bound is not passed by rounding. -/
theorem rounded_scaled_le (hf : f < 2 ^ 53) (hg : -1074 ≤ g)
    (h : ((m + slack acc : Nat) : ℚ) * 2 ^ e ≤ f * 2 ^ g) :
    (rounded m e acc : ℚ) * 2 ^ (e + places m e) ≤ f * 2 ^ g := by
  by_cases hplaces : places m e = 0
  · have hrounded : rounded m e acc ≤ m + slack acc :=
      rounded_shift_le (by rw [hplaces, Nat.pow_zero, Nat.mul_one])
    rw [hplaces, Nat.cast_zero, add_zero]
    refine le_trans (mul_le_mul_of_nonneg_right ?_ (two_zpow_pos e).le) h
    exact_mod_cast hrounded
  · have hm : (m : ℚ) * 2 ^ e ≤ f * 2 ^ g := by
      refine le_trans (mul_le_mul_of_nonneg_right ?_ (two_zpow_pos e).le) h
      exact_mod_cast Nat.le_add_right m _
    obtain ⟨j, hj⟩ := Int.le.dest (add_places_le hf hg hm hplaces)
    have hwhole : m + slack acc ≤ f * 2 ^ j * 2 ^ places m e := by
      rw [Nat.mul_assoc, ← Nat.pow_add, ← scaled_le_iff (e := e)]
      convert h using 3
      push_cast
      omega
    rw [← hj, scaled_le_iff]
    exact rounded_shift_le hwhole

theorem add_places_le_of_le_largest (he : e ≤ 971) (h : (m : ℚ) * 2 ^ e ≤ largest) :
    e + places m e ≤ 971 := by
  by_cases hplaces : places m e = 0
  · rw [hplaces]
    exact (add_zero e).symm ▸ he
  · exact add_places_le (f := 2 ^ 53 - 1) (by norm_num) (by norm_num) h hplaces

end Bounds

/-! ## Finite numbers -/

/-- The number is finite, and not larger than the bound, whatever its sign. -/
inductive Within (bound : ℚ) : UnpackedFloat → Prop where
  | zero (s : Sign) : Within bound (.zero s)
  | finite {s : Sign} {m : Nat} {e : Int} (hm : 0 < m) :
      (m : ℚ) * 2 ^ e ≤ bound → Within bound (.finite s m e hm)

theorem Within.mono {bound bound' : ℚ} (h : bound ≤ bound') {u : UnpackedFloat}
    (hu : Within bound u) : Within bound' u := by
  cases hu with
  | zero s => exact .zero s
  | finite hm hbound => exact .finite hm (hbound.trans h)

theorem Within.isFinite {bound : ℚ} {u : UnpackedFloat} (h : Within bound u) :
    u.isFinite = true := by
  cases h <;> rfl

theorem ofNat_ne_neg_one {n : Nat} (h : n + 1 < 2 ^ 11) : BitVec.ofNat 11 n ≠ -1#11 := by
  intro heq
  have hnat := congrArg BitVec.toNat heq
  rw [BitVec.toNat_ofNat, Nat.mod_eq_of_lt (by omega)] at hnat
  change n = 2047 at hnat
  omega

theorem toNat_one_append (v : BitVec 52) : (1#1 ++ v).toNat = 2 ^ 52 + v.toNat := by
  rw [BitVec.toNat_append, ← Nat.shiftLeft_add_eq_or_of_lt v.isLt]
  rfl

theorem unpack_normal {n : Nat} (hn : n ≠ 0) (h : n + 1 < 2 ^ 11) (s : Sign) (v : BitVec 52) :
    ∃ s' hm, UnpackedFloat.unpack binary64 (packComponents binary64 s (BitVec.ofNat 11 n) v) =
      .finite s' (2 ^ 52 + v.toNat) (n - 1075) hm := by
  have hzero : BitVec.ofNat 11 n ≠ 0#11 := by
    intro heq
    have hnat := congrArg BitVec.toNat heq
    rw [BitVec.toNat_ofNat, Nat.mod_eq_of_lt (by omega)] at hnat
    exact hn hnat
  have hexponent : ((BitVec.ofNat 11 n).toNat : Int) -
      (binary64.exponentBias + binary64.mantissaBitsWithoutImplicit) = n - 1075 := by
    rw [BitVec.toNat_ofNat, Nat.mod_eq_of_lt (by omega)]
    rfl
  unfold UnpackedFloat.unpack
  simp only [unpackMantissa_packComponents, unpackExponent_packComponents,
    if_neg (ofNat_ne_neg_one h), if_neg hzero, hexponent, toNat_one_append]
  exact ⟨_, by omega, rfl⟩

theorem unpack_subnormal (s : Sign) (v : BitVec 52) :
    Within ((v.toNat : ℚ) * 2 ^ (-1074 : Int))
      (UnpackedFloat.unpack binary64 (packComponents binary64 s 0#11 v)) := by
  have hexponent : ((0#11).toNat : Int) -
      (binary64.exponentBias + binary64.mantissaBitsWithoutImplicit) + 1 = -1074 := rfl
  unfold UnpackedFloat.unpack
  simp only [unpackMantissa_packComponents, unpackExponent_packComponents,
    if_neg (show (0#11) ≠ -1#11 by decide), if_true, hexponent]
  split
  · exact .zero _
  · exact .finite _ le_rfl

theorem pack_finite {s : Sign} {m : Nat} {e : Int} {hm : 0 < m} {n : Nat} (hn : e + 1075 = n)
    (h : n + 1 < 2 ^ 11) : UnpackedFloat.pack binary64 (.finite s m e hm) =
      if m.log2 = 52 then packComponents binary64 s (BitVec.ofNat 11 n) (BitVec.ofNat 52 m)
      else packComponents binary64 s 0#11 (BitVec.ofNat 52 m) := by
  have hbiased : (e + binary64.exponentBias + binary64.mantissaBitsWithoutImplicit).toNat = n := by
    change (e + 1023 + 52).toNat = n
    omega
  have hsmall : ¬2 ^ binary64.exponentBits ≤ n + 1 := Nat.not_le.2 h
  have hnormal : m.log2 + 1 = binary64.mantissaBits ↔ m.log2 = 52 := by
    change m.log2 + 1 = 53 ↔ m.log2 = 52
    omega
  rw [UnpackedFloat.pack]
  simp only [hbiased, if_neg hsmall, hnormal]

/-- A number with all its places is packed as it is, apart from its sign. -/
theorem unpack_pack_normal (s : Sign) {m : Nat} {e : Int} (hm : 0 < m) (hlog : m.log2 = 52)
    (hlow : -1074 ≤ e) (hhigh : e ≤ 971) : ∃ s',
      UnpackedFloat.unpack binary64 (UnpackedFloat.pack binary64 (.finite s m e hm)) =
        .finite s' m e hm := by
  obtain ⟨n, hn⟩ : ∃ n : Nat, e + 1075 = n := ⟨(e + 1075).toNat, by omega⟩
  obtain ⟨hlower, hupper⟩ := (Nat.log2_eq_iff hm.ne').1 hlog
  obtain ⟨s', hm', hunpack⟩ := unpack_normal (n := n) (by omega) (by omega) s (BitVec.ofNat 52 m)
  have hmantissa : 2 ^ 52 + (BitVec.ofNat 52 m).toNat = m := by
    rw [BitVec.toNat_ofNat, Nat.mod_eq_sub_mod hlower, Nat.mod_eq_of_lt (by omega)]
    omega
  have hexponent : (n : Int) - 1075 = e := by omega
  refine ⟨s', ?_⟩
  rw [pack_finite hn (by omega), if_pos hlog, hunpack]
  congr 1

theorem within_unpack_pack {s : Sign} {m : Nat} {e : Int} {hm : 0 < m} (hlow : -1074 ≤ e)
    (hhigh : e ≤ 971) : Within ((m : ℚ) * 2 ^ e)
      (UnpackedFloat.unpack binary64 (UnpackedFloat.pack binary64 (.finite s m e hm))) := by
  by_cases hlog : m.log2 = 52
  · obtain ⟨s', hunpack⟩ := unpack_pack_normal s hm hlog hlow hhigh
    rw [hunpack]
    exact .finite hm le_rfl
  · obtain ⟨n, hn⟩ : ∃ n : Nat, e + 1075 = n := ⟨(e + 1075).toNat, by omega⟩
    rw [pack_finite hn (by omega), if_neg hlog]
    refine (unpack_subnormal s (BitVec.ofNat 52 m)).mono ?_
    have hmantissa : (BitVec.ofNat 52 m).toNat ≤ m := by
      rw [BitVec.toNat_ofNat]
      exact Nat.mod_le _ _
    refine mul_le_mul (by exact_mod_cast hmantissa) ?_ (two_zpow_pos _).le (Nat.cast_nonneg m)
    exact zpow_le_zpow_right₀ one_le_two hlow

theorem within_unpack_pack_zero (bound : ℚ) (s : Sign) :
    Within bound (UnpackedFloat.unpack binary64 (UnpackedFloat.pack binary64 (.zero s))) := by
  change Within bound (UnpackedFloat.unpack binary64 (packedZero binary64 s))
  rw [unpack_packedZero]
  exact .zero s

/-! ## Rounding -/

/-- The significand that has become too long by rounding is shifted once more. -/
theorem round_eq (s : Sign) (m : Nat) (e : Int) (acc : Accuracy) {r : Nat} {e' : Int}
    (hr : rounded m e acc = r) (he' : e + places m e = e') :
    roundWithAccuracy binary64 s m e acc = if h : r / 2 ^ places r e' = 0 then .zero s
      else .finite s (r / 2 ^ places r e') (e' + places r e') (Nat.pos_of_ne_zero h) := by
  subst hr he'
  have hmantissa : (ExtendedMantissa.ofMantissaAndAccuracy (rounded m e acc) .exact >>>
      places (rounded m e acc) (e + places m e)).mantissa =
        rounded m e acc / 2 ^ places (rounded m e acc) (e + places m e) := by
    rw [mantissa_shift, mantissa_ofMantissaAndAccuracy]
  simp only [← hmantissa]
  rfl

/-- A number is rounded within a bound that is a floating-point number. -/
theorem within_round {m : Nat} {e : Int} {acc : Accuracy} {f : Nat} {g : Int} (hf : f < 2 ^ 53)
    (hg : -1074 ≤ g) (he : e ≤ 971) (hlargest : (f : ℚ) * 2 ^ g ≤ largest)
    (h : ((m + slack acc : Nat) : ℚ) * 2 ^ e ≤ f * 2 ^ g) (s : Sign) :
    Within ((f : ℚ) * 2 ^ g) (UnpackedFloat.unpack binary64
      (UnpackedFloat.pack binary64 (roundWithAccuracy binary64 s m e acc))) := by
  have hm : (m : ℚ) * 2 ^ e ≤ f * 2 ^ g := by
    refine le_trans (mul_le_mul_of_nonneg_right ?_ (two_zpow_pos e).le) h
    exact_mod_cast Nat.le_add_right m _
  have hrounded := rounded_scaled_le hf hg h
  have hfirst := add_places_le_of_le_largest he (hm.trans hlargest)
  have hsecond := add_places_le_of_le_largest hfirst (hrounded.trans hlargest)
  rw [round_eq s m e acc rfl rfl]
  split
  · exact within_unpack_pack_zero _ s
  · refine (within_unpack_pack ?_ hsecond).mono ?_
    · rw [places_eq]
      omega
    · exact (scaled_add_le (Nat.div_mul_le_self _ _)).trans hrounded

theorem rounded_normal {m : Nat} {e : Int} (hm : m ≠ 0) (hsplit : m.log2 = 52 + places m e)
    (acc : Accuracy) : 2 ^ 52 ≤ rounded m e acc ∧ rounded m e acc ≤ 2 ^ 53 := by
  obtain ⟨hlower, hupper⟩ := (Nat.log2_eq_iff hm).1 rfl
  have hleast : 2 ^ 52 ≤ m / 2 ^ places m e := by
    rw [Nat.le_div_iff_mul_le (Nat.two_pow_pos _), ← Nat.pow_add, ← hsplit]
    exact hlower
  have hmost : m / 2 ^ places m e < 2 ^ 53 := by
    rw [Nat.div_lt_iff_lt_mul (Nat.two_pow_pos _), ← Nat.pow_add]
    exact hupper.trans_eq (congrArg (2 ^ ·) (by omega))
  have hbelow := le_rounded (ExtendedMantissa.ofMantissaAndAccuracy m acc >>> places m e)
  have habove := rounded_le (ExtendedMantissa.ofMantissaAndAccuracy m acc >>> places m e)
  rw [mantissa_shift, mantissa_ofMantissaAndAccuracy] at hbelow habove
  exact ⟨hleast.trans hbelow, habove.trans hmost⟩

theorem unpack_pack_carried {r : Nat} {e : Int} (hleast : 2 ^ 52 ≤ r) (hmost : r ≤ 2 ^ 53)
    (hlow : -1074 ≤ e) (hhigh : e + places r e ≤ 971) (s : Sign) :
    ∃ s' m' e' hm', UnpackedFloat.unpack binary64 (UnpackedFloat.pack binary64
      (if h : r / 2 ^ places r e = 0 then .zero s
        else .finite s (r / 2 ^ places r e) (e + places r e) (Nat.pos_of_ne_zero h))) =
      .finite s' m' e' hm' ∧ m'.log2 = 52 ∧ e ≤ e' := by
  by_cases hshort : r < 2 ^ 53
  · have hlog : r.log2 = 52 := (Nat.log2_eq_iff (by omega)).2 ⟨hleast, hshort⟩
    have hnone : places r e = 0 := by
      rw [places_eq, hlog]
      omega
    have hpos : 0 < r := by omega
    obtain ⟨s', hunpack⟩ := unpack_pack_normal s hpos hlog
      (show -1074 ≤ e + (0 : Nat) by omega) (by omega)
    rw [dif_neg (by rw [hnone, Nat.pow_zero, Nat.div_one]; omega)]
    simp only [hnone, Nat.pow_zero, Nat.div_one]
    exact ⟨s', r, _, hpos, hunpack, hlog, by omega⟩
  · obtain rfl : r = 2 ^ 53 := by omega
    have hone : places (2 ^ 53) e = 1 := by
      rw [places_eq, Nat.log2_two_pow]
      omega
    have hpos : 0 < 2 ^ 53 / 2 ^ 1 := by norm_num
    obtain ⟨s', hunpack⟩ := unpack_pack_normal s hpos (by decide)
      (show -1074 ≤ e + (1 : Nat) by omega) (by omega)
    rw [dif_neg (by rw [hone]; norm_num)]
    simp only [hone]
    exact ⟨s', _, _, hpos, hunpack, by decide, by omega⟩

/-- A long significand keeps all the places that there are, and the size of the number is kept. -/
theorem unpack_round_normal {m : Nat} {e : Int} {acc : Accuracy} (hlong : 52 ≤ m.log2)
    (hlow : -1022 ≤ m.log2 + e) (he : e ≤ 971)
    (h : ((m + slack acc : Nat) : ℚ) * 2 ^ e ≤ largest) (s : Sign) :
    ∃ s' m' e' hm', UnpackedFloat.unpack binary64 (UnpackedFloat.pack binary64
      (roundWithAccuracy binary64 s m e acc)) = .finite s' m' e' hm' ∧
        m'.log2 = 52 ∧ m.log2 + e - 52 ≤ e' := by
  have hwhole : (m : ℚ) * 2 ^ e ≤ largest := by
    refine le_trans (mul_le_mul_of_nonneg_right ?_ (two_zpow_pos e).le) h
    exact_mod_cast Nat.le_add_right m _
  have hrounded := rounded_scaled_le (f := 2 ^ 53 - 1) (by norm_num) (by norm_num) h
  have hfirst := add_places_le_of_le_largest he hwhole
  have hsecond := add_places_le_of_le_largest hfirst hrounded
  have hm : m ≠ 0 := by
    rintro rfl
    simp at hlong
  have hplaces : places m e = m.log2 - 52 := by
    rw [places_eq]
    omega
  obtain ⟨hleast, hmost⟩ := @rounded_normal m e hm (by omega) acc
  obtain ⟨s', m', e', hm', hunpack, hlog, hle⟩ :=
    unpack_pack_carried hleast hmost (by omega) hsecond s
  rw [round_eq s m e acc rfl rfl]
  exact ⟨s', m', e', hm', hunpack, hlog, by omega⟩

end Ingest.Decimal
