import Ingest.Proofs.Decimal.Scaling
/-!
# The size of the shortest decimal

The shortest decimal of a number lies in the interval that the number owns, so it is not larger than
the upper end.  For numbers with the largest exponent it lies on a coarse grid, since their
intervals are wide; and so its digits can be scaled again.
-/

namespace Ingest.Decimal

open Ingest.Json

/-! ## Intervals -/

theorem zpow_mul_toNat {b : ℚ} (hb : b ≠ 0) (k : Int) : b ^ k * b ^ (-k).toNat = b ^ k.toNat := by
  rw [← zpow_natCast, ← zpow_natCast, ← zpow_add₀ hb]
  congr 1
  omega

theorem Binary.le_of_owns {x : Binary} {k : Int} {d : Nat} (h : x.owns k d = true) :
    (d : ℚ) * 10 ^ k ≤ ((4 * x.significand + 2 : Nat) : ℚ) * 2 ^ (x.exponent - 2) := by
  obtain ⟨s, hs⟩ : ∃ s, x.exponent - 2 = s := ⟨_, rfl⟩
  have hwhole : d * (10 ^ k.toNat * 2 ^ (-s).toNat) ≤
      (4 * x.significand + 2) * (2 ^ s.toNat * 10 ^ (-k).toNat) := by
    simp only [Binary.owns, hs] at h
    split at h <;> simp only [Bool.and_eq_true, decide_eq_true_eq] at h
    · exact h.2
    · exact h.2.le
  have hscaled : (d : ℚ) * (10 ^ k.toNat * 2 ^ (-s).toNat) ≤
      ((4 * x.significand + 2 : Nat) : ℚ) * (2 ^ s.toNat * 10 ^ (-k).toNat) := by
    exact_mod_cast hwhole
  rw [← zpow_mul_toNat (by norm_num) k, ← zpow_mul_toNat (by norm_num) s] at hscaled
  have hden : (0 : ℚ) < 10 ^ (-k).toNat * 2 ^ (-s).toNat := by positivity
  rw [hs, ← mul_le_mul_iff_left₀ hden]
  calc (d : ℚ) * 10 ^ k * (10 ^ (-k).toNat * 2 ^ (-s).toNat)
      = d * (10 ^ k * 10 ^ (-k).toNat * 2 ^ (-s).toNat) := by ring
    _ ≤ ((4 * x.significand + 2 : Nat) : ℚ) * (2 ^ s * 2 ^ (-s).toNat * 10 ^ (-k).toNat) := hscaled
    _ = ((4 * x.significand + 2 : Nat) : ℚ) * 2 ^ s * (10 ^ (-k).toNat * 2 ^ (-s).toNat) := by ring

/-- Zero is owned by no other number. -/
theorem Binary.pos_of_owns {x : Binary} (hx : 0 < x.significand) {k : Int} {d : Nat}
    (h : x.owns k d = true) : 0 < d := by
  rcases Nat.eq_zero_or_pos d with rfl | hd
  · have hlow : 0 < (4 * x.significand - if x.atPowerOfTwo then 1 else 2) *
        (Nat.pow 2 (x.exponent - 2).toNat * Nat.pow 10 (-k).toNat) := by
      refine Nat.mul_pos ?_ (Nat.mul_pos (Nat.pow_pos two_pos) (Nat.pow_pos (by norm_num)))
      split <;> omega
    simp only [Binary.owns, Nat.zero_mul] at h
    split at h <;> simp only [Bool.and_eq_true, decide_eq_true_eq] at h <;> omega
  · exact hd

theorem Binary.owns_of_pointAt? {x : Binary} {halfUp : Bool} {k : Int} {d : Nat}
    (h : x.pointAt? halfUp k = some d) : x.owns k d = true := by
  simp only [Binary.pointAt?] at h
  cases hbelow : x.owns k (x.floorAt k) <;> cases habove : x.owns k (x.floorAt k + 1) <;>
    simp only [hbelow, habove] at h
  · cases h
  · cases h
    exact habove
  · cases h
    exact hbelow
  · split at h
    · cases h
      exact hbelow
    · cases h
      exact habove
    · split at h <;> cases h
      · exact habove
      · exact hbelow

/-- A point of a grid stands for the value if one of the two next to it does. -/
theorem Binary.isSome_pointAt? {x : Binary} {halfUp : Bool} {k : Int}
    (h : x.owns k (x.floorAt k) = true ∨ x.owns k (x.floorAt k + 1) = true) :
    (x.pointAt? halfUp k).isSome = true := by
  simp only [Binary.pointAt?]
  cases hbelow : x.owns k (x.floorAt k) <;> cases habove : x.owns k (x.floorAt k + 1) <;>
    simp only [hbelow, habove, Bool.false_eq_true, or_self] at h ⊢ <;> try rfl
  split <;> rfl

/-! ## Stripped coefficients -/

theorem Scaled.strip_eq (fuel : Nat) (s : Scaled) : ∃ j c : Nat,
    s.strip fuel = ⟨c, s.exponent + j⟩ ∧ c * 10 ^ j = s.coefficient := by
  induction fuel generalizing s with
  | zero => exact ⟨0, s.coefficient, by simp [Scaled.strip], by simp⟩
  | succ fuel ih =>
    rw [Scaled.strip]
    split
    · rename_i hzero
      obtain ⟨j, c, hstrip, hc⟩ := ih ⟨s.coefficient / 10, s.exponent + 1⟩
      refine ⟨j + 1, c, ?_, ?_⟩
      · rw [hstrip]
        congr 1
        push_cast
        omega
      · rw [Nat.pow_succ, ← Nat.mul_assoc, hc]
        exact Nat.div_mul_cancel (Nat.dvd_of_mod_eq_zero hzero)
    · exact ⟨0, s.coefficient, by simp, by simp⟩

/-! ## Coarse grids -/

def grids : List Int := (List.range 634).map fun i => 309 - Int.ofNat i

theorem mem_grids {k : Int} (h : k ∈ grids) : -324 ≤ k ∧ k ≤ 309 := by
  obtain ⟨i, hi, rfl⟩ := List.mem_map.1 h
  rw [List.mem_range] at hi
  exact ⟨by simp only [Int.ofNat_eq_natCast]; omega, by simp only [Int.ofNat_eq_natCast]; omega⟩

theorem grids_eq : grids = ((List.range 18).map fun i => 309 - Int.ofNat i) ++
    (List.range' 18 616).map fun i => 309 - Int.ofNat i := by decide +kernel

def Binary.scaledAt? (x : Binary) (halfUp : Bool) (k : Int) : Option Scaled :=
  (x.pointAt? halfUp k).map fun d => ⟨d, k⟩

theorem shortest_eq (halfUp : Bool) (x : Binary) : shortest halfUp x =
    (grids.findSome? (x.scaledAt? halfUp)).elim ⟨0, 0⟩ (Scaled.strip 17) := by
  unfold shortest Binary.scaledAt?
  extract_lets ks
  have hks : ks = grids := rfl
  rw [← hks]
  clear_value ks
  generalize ks.findSome? _ = found
  cases found <;> rfl

theorem exists_of_findSome? {halfUp : Bool} {x : Binary} {s : Scaled} {ks : List Int}
    (h : ks.findSome? (x.scaledAt? halfUp) = some s) :
    s.exponent ∈ ks ∧ x.owns s.exponent s.coefficient = true := by
  obtain ⟨k, hk, hs⟩ := List.exists_of_findSome?_eq_some h
  obtain ⟨d, hd, rfl⟩ := Option.map_eq_some_iff.1 hs
  exact ⟨hk, Binary.owns_of_pointAt? hd⟩

/-- The shortest decimal is a point of a grid that the number owns, without zeros at its end. -/
theorem shortest_cases (halfUp : Bool) (x : Binary) : shortest halfUp x = ⟨0, 0⟩ ∨
    ∃ (k : Int) (d j c : Nat), grids.findSome? (x.scaledAt? halfUp) = some ⟨d, k⟩ ∧
      shortest halfUp x = ⟨c, k + j⟩ ∧ c * 10 ^ j = d := by
  rw [shortest_eq]
  cases hfound : grids.findSome? (x.scaledAt? halfUp) with
  | none => exact .inl rfl
  | some s =>
    obtain ⟨j, c, hstrip, hc⟩ := Scaled.strip_eq 17 s
    exact .inr ⟨s.exponent, s.coefficient, j, c, rfl, hstrip, hc⟩

theorem owns_of_le {m d e k : Nat} {atPowerOfTwo : Bool} (he : 2 ≤ e)
    (hlow : (4 * m - if atPowerOfTwo then 1 else 2) * 2 ^ (e - 2) < d * 10 ^ k)
    (hhigh : d * 10 ^ k < (4 * m + 2) * 2 ^ (e - 2)) :
    (Binary.mk m e atPowerOfTwo).owns k d = true := by
  have hplace : ((e : Int) - 2).toNat = e - 2 := by omega
  have hwhole : (-((e : Int) - 2)).toNat = 0 := by omega
  simp only [Binary.owns, hplace, hwhole, Int.toNat_natCast, Int.toNat_neg_natCast, Nat.pow_eq,
    Nat.pow_zero, Nat.mul_one]
  split <;> simp only [Bool.and_eq_true, decide_eq_true_eq]
  · exact ⟨hlow.le, hhigh.le⟩
  · exact ⟨hlow, hhigh⟩

theorem floorAt_of_nonneg (m e k : Nat) (atPowerOfTwo : Bool) :
    (Binary.mk m e atPowerOfTwo).floorAt k = m * 2 ^ e / 10 ^ k := by
  simp only [Binary.floorAt, Int.toNat_natCast, Int.toNat_neg_natCast, Nat.pow_eq, Nat.pow_zero,
    Nat.mul_one]

/-- A grid that is narrower than the interval of a number has a point in it. -/
theorem isSome_pointAt?_of_narrow {m : Nat} (hm : 0 < m) {e k : Nat} (he : 2 ≤ e)
    (hnarrow : 10 ^ k < 3 * 2 ^ (e - 2)) (atPowerOfTwo halfUp : Bool) :
    ((Binary.mk m e atPowerOfTwo).pointAt? halfUp k).isSome = true := by
  refine Binary.isSome_pointAt? ?_
  rw [floorAt_of_nonneg]
  have hvalue : m * 2 ^ e = 4 * m * 2 ^ (e - 2) := by
    rw [Nat.mul_comm 4, Nat.mul_assoc, show 4 = 2 ^ 2 from rfl, ← Nat.pow_add]
    congr 2
    omega
  have hfloor := Nat.div_mul_le_self (m * 2 ^ e) (10 ^ k)
  have hnext := Nat.lt_mul_of_div_lt (Nat.lt_add_one (m * 2 ^ e / 10 ^ k))
    (Nat.pow_pos (by norm_num))
  have hlow : (4 * m - if atPowerOfTwo then 1 else 2) * 2 ^ (e - 2) + 2 ^ (e - 2) ≤
      4 * m * 2 ^ (e - 2) := by
    rw [← Nat.succ_mul]
    refine Nat.mul_le_mul_right _ ?_
    split <;> omega
  -- The upper neighbour lies in the interval unless the lower one is less than a grid's width
  -- below its end.
  by_cases habove : (m * 2 ^ e / 10 ^ k + 1) * 10 ^ k < (4 * m + 2) * 2 ^ (e - 2)
  · exact .inr (owns_of_le he (by omega) habove)
  · rw [Nat.add_mul, Nat.add_mul] at habove
    refine .inl (owns_of_le he (by omega) ?_)
    rw [Nat.add_mul]
    have := Nat.two_pow_pos (e - 2)
    omega

/-- The largest numbers have their shortest decimals on coarse grids. -/
theorem coarse_of_findSome? {m : Nat} (hm : 0 < m) {atPowerOfTwo halfUp : Bool} {s : Scaled}
    (h : grids.findSome? ((Binary.mk m 971 atPowerOfTwo).scaledAt? halfUp) = some s) :
    292 ≤ s.exponent := by
  have hnarrow : 10 ^ 292 < 3 * 2 ^ (971 - 2) := by decide +kernel
  have hcoarse : 292 ∈ (List.range 18).map fun i => 309 - Int.ofNat i := by decide
  obtain ⟨d, hd⟩ := Option.isSome_iff_exists.1
    (isSome_pointAt?_of_narrow hm (by norm_num) hnarrow atPowerOfTwo halfUp)
  rw [grids_eq, List.findSome?_append, Option.or_of_isSome] at h
  · obtain ⟨i, hi, hexponent⟩ := List.mem_map.1 (exists_of_findSome? h).1
    rw [List.mem_range] at hi
    rw [← hexponent, Int.ofNat_eq_natCast]
    omega
  · rw [List.findSome?_isSome_iff]
    refine ⟨292, hcoarse, ?_⟩
    rw [Binary.scaledAt?, Option.isSome_map]
    exact Option.isSome_of_eq_some hd

/-! ## Digits of moderate size -/

structure Binary.IsInRange (x : Binary) : Prop where
  significand_lt : x.significand < 2 ^ 53
  exponent_le : x.exponent ≤ 971
  atPowerOfTwo : x.atPowerOfTwo = true → x.significand = 2 ^ 52

/-- The decimal is not too large, and its first digits, as many as there is place for, can be
scaled. -/
structure Scaled.IsModerate (s : Scaled) : Prop where
  zero : s.coefficient = 0 → s.exponent = 0
  low : -324 ≤ s.exponent
  le : (s.coefficient : ℚ) * 10 ^ s.exponent ≤ 2 ^ (1024 : Int)
  scalable : ∀ {significand left e : Nat}, significand * 10 ^ left ≤ s.coefficient →
    (s.coefficient ≤ maxSignificand → significand = s.coefficient ∧ left = 0) →
    (e : Int) = s.exponent + left → IsScalable significand e

theorem Scaled.isModerate_zero : (Scaled.mk 0 0).IsModerate where
  zero _ := rfl
  low := by norm_num
  le := by
    rw [Nat.cast_zero, zero_mul]
    exact (two_zpow_pos 1024).le
  scalable := by
    intro significand left e hle hfits he
    obtain ⟨rfl, -⟩ := hfits (Nat.zero_le _)
    refine .below ?_
    rw [Nat.zero_mul]
    exact Nat.zero_le _

theorem first_le {coefficient significand left e bound : Nat} {exponent : Int}
    (hfirst : significand * 10 ^ left ≤ coefficient) (he : (e : Int) = exponent + left)
    (h : (coefficient : ℚ) * 10 ^ exponent ≤ bound) : significand * 10 ^ e ≤ bound := by
  have hcast : ((significand * 10 ^ left : Nat) : ℚ) ≤ coefficient := by exact_mod_cast hfirst
  have hscaled : (significand : ℚ) * 10 ^ e ≤ bound := by
    calc (significand : ℚ) * 10 ^ e
        = ((significand * 10 ^ left : Nat) : ℚ) * 10 ^ exponent := by
          rw [← zpow_natCast, he, zpow_add₀ (by norm_num), Nat.cast_mul, Nat.cast_pow, zpow_natCast]
          push_cast
          ring
      _ ≤ coefficient * 10 ^ exponent :=
          mul_le_mul_of_nonneg_right hcast (zpow_pos (by norm_num) exponent).le
      _ ≤ bound := h
  exact_mod_cast hscaled

theorem quarters_le_two_zpow {m n : Nat} {e g : Int} (hm : 4 * m + 2 ≤ 2 ^ n)
    (he : n + (e - 2) ≤ g) : ((4 * m + 2 : Nat) : ℚ) * 2 ^ (e - 2) ≤ 2 ^ g := by
  have hcast : ((4 * m + 2 : Nat) : ℚ) ≤ 2 ^ (n : Int) := by
    rw [zpow_natCast]
    exact_mod_cast hm
  calc ((4 * m + 2 : Nat) : ℚ) * 2 ^ (e - 2)
      ≤ 2 ^ (n : Int) * 2 ^ (e - 2) := mul_le_mul_of_nonneg_right hcast (two_zpow_pos _).le
    _ = 2 ^ (n + (e - 2)) := (zpow_add₀ two_ne_zero _ _).symm
    _ ≤ 2 ^ g := zpow_le_zpow_right₀ one_le_two he

theorem shortest_largest (halfUp : Bool) :
    shortest halfUp ⟨2 ^ 53 - 1, 971, false⟩ = ⟨17976931348623157, 292⟩ := by
  cases halfUp <;> decide +kernel

theorem isModerate_largest : (Scaled.mk 17976931348623157 292).IsModerate where
  zero := nofun
  low := by decide
  le := by
    have howns : (Binary.mk (2 ^ 53 - 1) 971 false).owns 292 17976931348623157 = true := by
      decide +kernel
    exact (Binary.le_of_owns howns).trans
      (quarters_le_two_zpow (n := 55) (by norm_num) (by norm_num))
  scalable := by
    intro significand left e _ hfits he
    obtain ⟨hsignificand, rfl⟩ := hfits (by decide)
    obtain rfl : e = 292 := by
      dsimp only at he
      omega
    exact .largest hsignificand

/-- Apart from the largest number, the digits are bounded by the interval. -/
theorem isModerate_of_owns {m : Nat} {q k : Int} {atPowerOfTwo : Bool} {c j : Nat}
    (howns : (Binary.mk m q atPowerOfTwo).owns k (c * 10 ^ j) = true) (hpos : 0 < m)
    (hm : m < 2 ^ 53) (hq : q ≤ 971) (hlow : -324 ≤ k)
    (hlarge : q = 971 → m ≠ 2 ^ 53 - 1 ∧ 292 ≤ k) : (Scaled.mk c (k + j)).IsModerate := by
  have hsize : (c : ℚ) * 10 ^ (k + j) ≤ ((4 * m + 2 : Nat) : ℚ) * 2 ^ (q - 2) := by
    have hscaled := Binary.le_of_owns howns
    rwa [Nat.cast_mul, Nat.cast_pow, mul_assoc, ← zpow_natCast, mul_comm (_ ^ (j : Int)),
      Nat.cast_ofNat, ← zpow_add₀ (by norm_num)] at hscaled
  refine ⟨?_, ?_, hsize.trans (quarters_le_two_zpow (n := 55) (by omega) (by omega)), ?_⟩
  · intro hc
    have hd := Binary.pos_of_owns hpos howns
    rw [show c = 0 from hc, Nat.zero_mul] at hd
    cases hd
  · dsimp only
    omega
  · intro significand left e hfirst _ he
    dsimp only at hfirst he
    by_cases hbelow : q ≤ 970
    · refine .below (first_le hfirst he (hsize.trans ?_))
      rw [Nat.cast_pow, Nat.cast_ofNat, ← zpow_natCast]
      exact quarters_le_two_zpow (n := 55) (by omega) (by omega)
    · obtain rfl : q = 971 := by omega
      obtain ⟨hne, hcoarse⟩ := hlarge rfl
      refine .coarse (by omega) (first_le hfirst he (hsize.trans ?_))
      rw [Nat.cast_mul, Nat.cast_pow 2, Nat.cast_ofNat, ← zpow_natCast]
      refine mul_le_mul_of_nonneg_right ?_ (two_zpow_pos _).le
      exact_mod_cast (show 4 * m + 2 ≤ 2 ^ 55 - 6 by omega)

theorem isModerate_shortest {x : Binary} (hx : x.IsInRange) (hpos : 0 < x.significand)
    (halfUp : Bool) : (shortest halfUp x).IsModerate := by
  obtain ⟨m, q, atPowerOfTwo⟩ := x
  obtain ⟨hm, hq, hpower⟩ := hx
  by_cases hlarge : q = 971 ∧ m = 2 ^ 53 - 1
  · obtain ⟨rfl, rfl⟩ := hlarge
    obtain rfl : atPowerOfTwo = false := by
      cases atPowerOfTwo with
      | false => rfl
      | true => cases hpower rfl
    rw [shortest_largest]
    exact isModerate_largest
  · rcases shortest_cases halfUp ⟨m, q, atPowerOfTwo⟩ with h | ⟨k, d, j, c, hfound, h, rfl⟩
    · rw [h]
      exact Scaled.isModerate_zero
    · obtain ⟨hk, howns⟩ := exists_of_findSome? hfound
      rw [h]
      refine isModerate_of_owns howns hpos hm hq (mem_grids hk).1 ?_
      rintro rfl
      exact ⟨fun hm => hlarge ⟨rfl, hm⟩, coarse_of_findSome? hpos hfound⟩

/-! ## Floating-point numbers -/

open Float.Model UnpackedFloat in
theorem toNat_unpackExponent (b : BitVec 64) :
    (@unpackExponent binary64 b).toNat = b.toNat / 2 ^ 52 % 2 ^ 11 := by
  rw [unpackExponent_def]
  exact (BitVec.extractLsb'_toNat _ _ _).trans (by rw [Nat.shiftRight_eq_div_pow])

theorem isInRange_ofFloat {x : Float} (hx : x.isFinite = true) : (Binary.ofFloat x).IsInRange := by
  have hexponent : x.toBits.toNat / 2 ^ 52 % 2 ^ 11 ≠ 2047 := by
    intro h
    refine isFinite_unpack_iff.1 hx (BitVec.eq_of_toNat_eq ?_)
    rw [toNat_unpackExponent]
    exact h
  have hfraction : x.toBits.toNat % 2 ^ 52 < 2 ^ 52 := Nat.mod_lt _ (by norm_num)
  simp only [Binary.ofFloat, Nat.pow_eq, Int.ofNat_eq_natCast]
  split
  · exact ⟨by dsimp only; omega, by dsimp only; omega, nofun⟩
  · refine ⟨by dsimp only; omega, by dsimp only; omega, ?_⟩
    intro hpower
    simp only [Bool.and_eq_true, decide_eq_true_eq] at hpower
    dsimp only
    omega

end Ingest.Decimal
