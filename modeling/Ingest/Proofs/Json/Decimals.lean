import Ingest.Proofs.Decimal.Shortest
import Ingest.Proofs.Json.Digits
/-!
# Decimals, read again

A decimal is set out as a whole part, a fraction and a power of ten.  Its characters are one token,
and the decimal of a finite floating-point number is read as a number again: as another one, maybe,
but it is never out of range.
-/

namespace Ingest.Json

open Decimal

/-! ## The parts of a decimal -/

structure Layout where
  whole : List Char
  fraction : List Char
  power : Option Int

namespace Layout

def fractionChars : List Char → List Char
  | [] => []
  | c :: cs => '.' :: c :: cs

def powerChars : Option Int → List Char
  | none => []
  | some e => 'e' :: (toString e).toList

def chars (l : Layout) : List Char := l.whole ++ (fractionChars l.fraction ++ powerChars l.power)

def fractionValues : List Char → Option (List Nat)
  | [] => none
  | c :: cs => some (digitValues (c :: cs))

def powerValues (e : Int) : Bool × List Nat := (e < 0, digitValues (Nat.toDigits 10 e.natAbs))

def numeral (l : Layout) (negative : Bool) : Numeral :=
  ⟨negative, digitValues l.whole, fractionValues l.fraction, l.power.map powerValues⟩

structure IsSound (l : Layout) : Prop where
  whole : IsWhole l.whole
  digits : ∀ c ∈ l.fraction, c.isDigit = true

theorem fractionChars_of_ne_nil {cs : List Char} (h : cs ≠ []) : fractionChars cs = '.' :: cs := by
  cases cs with
  | nil => exact absurd rfl h
  | cons c cs => rfl

/-! ## Tokens -/

theorem stops_powerChars {p : Char → Bool} (hmark : p 'e' = false) {rest : List Char}
    (hrest : Stops p rest) (power : Option Int) : Stops p (powerChars power ++ rest) := by
  cases power with
  | none => exact hrest
  | some e =>
    rintro _ ⟨⟩
    exact hmark

theorem stops_fractionChars {p : Char → Bool} (hpoint : p '.' = false) {rest : List Char}
    (hrest : Stops p rest) (fraction : List Char) : Stops p (fractionChars fraction ++ rest) := by
  cases fraction with
  | nil => exact hrest
  | cons c cs =>
    rintro _ ⟨⟩
    exact hpoint

theorem isSignOf_signChars {whole : List Char} (h : IsWhole whole) (negative : Bool)
    (rest : List Char) : IsSignOf (signChars negative) negative (whole ++ rest) := by
  cases negative with
  | true => exact .minus _
  | false =>
    refine .none ?_
    obtain ⟨c, cs, rfl⟩ := List.exists_cons_of_ne_nil h.nonempty
    rintro _ ⟨⟩
    have hc := h.digits c List.mem_cons_self
    simp only [isSign, Bool.or_eq_false_iff, decide_eq_false_iff_not]
    exact ⟨ne_of_isDigit hc rfl, ne_of_isDigit hc rfl⟩

theorem scanExponent_powerChars {rest : List Char} (hrest : Stops goesOn rest) (negative : Bool)
    (whole : List Nat) (fraction : Option (List Nat)) (power : Option Int) (length : Nat) :
    scanExponent ⟨negative, whole, fraction, none⟩ length (powerChars power ++ rest) =
      (.number ⟨negative, whole, fraction, power.map powerValues⟩,
        length + (powerChars power).length) := by
  cases power with
  | none => exact scanExponent_of_stops (stops_isExponentMark hrest)
  | some e =>
    have hdigits := digits_append (isWhole_toDigits e.natAbs).digits (stops_isDigit hrest)
    have hne : (digitValues (Nat.toDigits 10 e.natAbs)).isEmpty = false := by
      rw [digitValues, List.isEmpty_map]
      exact List.isEmpty_eq_false_iff.2 Nat.toDigits_ne_nil
    rw [powerChars, List.cons_append, toList_toString, List.append_assoc,
      scanExponent_mark rfl (isSignOf_signChars (isWhole_toDigits e.natAbs) _ rest), hdigits, hne,
      if_neg Bool.false_ne_true, digitValues, List.length_map, List.length_cons, List.length_append]
    exact Prod.ext rfl (by dsimp only; omega)

theorem scanFraction_of_digits {n : Numeral} {length : Nat} {cs : List Char} {ds : List Nat}
    (h : digits cs = ds) (hne : ds ≠ []) : scanFraction n length ('.' :: cs) =
      scanExponent { n with fraction := some ds } (length + 1 + ds.length) (cs.drop ds.length) := by
  obtain ⟨d, ds, rfl⟩ := List.exists_cons_of_ne_nil hne
  simp only [scanFraction, h]

theorem scanFraction_chars {l : Layout} (hl : l.IsSound) {rest : List Char}
    (hrest : Stops goesOn rest) (negative : Bool) (length : Nat) :
    scanFraction ⟨negative, digitValues l.whole, none, none⟩ length
        (fractionChars l.fraction ++ powerChars l.power ++ rest) =
      (.number (l.numeral negative),
        length + (fractionChars l.fraction ++ powerChars l.power).length) := by
  obtain ⟨whole, fraction, power⟩ := l
  rw [List.append_assoc]
  cases fraction with
  | nil =>
    have hpoint := stops_powerChars (p := isPoint) rfl (stops_isPoint hrest) power
    rw [fractionChars, List.nil_append, scanFraction_of_stops hpoint, scanExponent_powerChars hrest]
    rfl
  | cons c cs =>
    have hdigits := digits_append hl.digits
      (stops_powerChars (p := Char.isDigit) rfl (stops_isDigit hrest) power)
    have hlength : (digitValues (c :: cs)).length = (c :: cs).length := List.length_map _
    rw [fractionChars, List.cons_append, scanFraction_of_digits hdigits (List.cons_ne_nil _ _),
      hlength, List.drop_left, scanExponent_powerChars hrest]
    refine Prod.ext rfl ?_
    simp only [List.length_cons, List.length_append]
    omega

theorem tokensOf_chars {l : Layout} (hl : l.IsSound) {rest : List Char} (hrest : Stops goesOn rest)
    (negative : Bool) : tokensOf (signChars negative ++ (l.chars ++ rest)) =
      .number (l.numeral negative) :: tokensOf rest := by
  have hstops : Stops Char.isDigit (fractionChars l.fraction ++ powerChars l.power ++ rest) := by
    rw [List.append_assoc]
    exact stops_fractionChars rfl (stops_powerChars rfl (stops_isDigit hrest) _) _
  rw [chars, List.append_assoc]
  exact tokensOf_number hl.whole hstops (scanFraction_chars hl hrest negative)

end Layout

/-! ## How digits are set out -/

def layout (style : Style) (s : Scaled) : Layout :=
  let ds := Nat.toDigits 10 s.coefficient
  let point : Int := ds.length + s.exponent
  if style.isPositional point then
    if 0 ≤ s.exponent then ⟨ds ++ List.replicate s.exponent.toNat '0', ['0'], none⟩
    else if 0 < point then ⟨ds.take point.toNat, ds.drop point.toNat, none⟩
    else ⟨['0'], List.replicate (-point).toNat '0' ++ ds, none⟩
  else ⟨ds.take 1, ds.drop 1, some (point - 1)⟩

theorem toList_text (style : Style) (s : Scaled) :
    (s.text style).toList = (layout style s).chars := by
  have htext : (toString s.coefficient).toList = Nat.toDigits 10 s.coefficient := Nat.toList_repr
  have hne : Nat.toDigits 10 s.coefficient ≠ [] := Nat.toDigits_ne_nil
  rw [Scaled.text, layout]
  simp only [← String.length_toList, htext]
  generalize hds : Nat.toDigits 10 s.coefficient = ds at hne
  generalize hpoint : (ds.length : Int) + s.exponent = point
  split
  · split
    · simp [Layout.chars, Layout.fractionChars, Layout.powerChars, hds]
    · split
      · have hrest : ds.drop point.toNat ≠ [] := by
          rw [ne_eq, List.drop_eq_nil_iff]
          omega
        simp [Layout.chars, Layout.powerChars, Layout.fractionChars_of_ne_nil hrest]
      · have hzeros := List.append_ne_nil_of_right_ne_nil (List.replicate (-point).toNat '0') hne
        simp [Layout.chars, Layout.powerChars, Layout.fractionChars_of_ne_nil hzeros, hds]
  · obtain ⟨d, others, rfl⟩ := List.exists_cons_of_ne_nil hne
    cases others <;> simp [Layout.chars, Layout.powerChars, Layout.fractionChars]

theorem isDigit_of_mem_replicate {n : Nat} {c : Char} (h : c ∈ List.replicate n '0') :
    c.isDigit = true := by
  rw [List.eq_of_mem_replicate h]
  rfl

theorem isWhole_zero : IsWhole ['0'] where
  digits := fun _ hc => isDigit_of_mem_replicate (n := 1) hc
  nonempty := List.cons_ne_nil _ _
  no_zero := nofun

theorem IsWhole.take {cs : List Char} (h : IsWhole cs) {n : Nat} (hn : 0 < n) :
    IsWhole (cs.take n) where
  digits := fun c hc => h.digits c (List.mem_of_mem_take hc)
  nonempty := by
    rw [ne_eq, List.take_eq_nil_iff]
    rintro (rfl | hnil)
    · exact Nat.lt_irrefl 0 hn
    · exact h.nonempty hnil
  no_zero := by
    intro c others heq
    refine h.no_zero c (others ++ cs.drop n) ?_
    rw [← List.cons_append, ← List.cons_append, ← heq, List.take_append_drop]

theorem isWhole_append_zeros {c n : Nat} (hzero : c = 0 → n = 0) :
    IsWhole (Nat.toDigits 10 c ++ List.replicate n '0') where
  digits := by
    intro d hd
    rcases List.mem_append.1 hd with hd | hd
    · exact (isWhole_toDigits c).digits d hd
    · exact isDigit_of_mem_replicate hd
  nonempty := List.append_ne_nil_of_left_ne_nil Nat.toDigits_ne_nil _
  no_zero := by
    rcases Nat.eq_zero_or_pos c with rfl | hc
    · rw [hzero rfl, List.replicate_zero, List.append_nil]
      exact (isWhole_toDigits 0).no_zero
    · intro d others heq
      apply head_toDigits hc
      rw [← List.head?_append_of_ne_nil _ Nat.toDigits_ne_nil, heq]
      rfl

theorem isSound_layout (style : Style) {s : Scaled} (hzero : s.coefficient = 0 → s.exponent = 0) :
    (layout style s).IsSound := by
  have hds := isWhole_toDigits s.coefficient
  rw [layout]
  split
  · split
    · refine ⟨isWhole_append_zeros fun hc => ?_, isWhole_zero.digits⟩
      rw [hzero hc]
      rfl
    · split
      · exact ⟨hds.take (by omega), fun d hd => hds.digits d (List.mem_of_mem_drop hd)⟩
      · refine ⟨isWhole_zero, fun d hd => ?_⟩
        rcases List.mem_append.1 hd with hd | hd
        · exact isDigit_of_mem_replicate hd
        · exact hds.digits d hd
  · exact ⟨hds.take one_pos, fun d hd => hds.digits d (List.mem_of_mem_drop hd)⟩

/-! ## What decimals are worth -/

def Numeral.power (n : Numeral) : Int :=
  match n.exponent with
  | none => 0
  | some (negative, ds) => if negative then -digitsValue ds else digitsValue ds

/-- A number whose whole part there is place for is read if its digits can be scaled. -/
theorem exists_float {n : Numeral} {significand left : Nat} {taken : Nat}
    (hwhole : absorb 0 n.whole = (taken, 0))
    (hfraction : absorb taken (n.fraction.getD []) = (significand, left))
    (hpower : n.power.natAbs ≤ maxExponent)
    (hscale : ∃ x, scale significand
      (n.power - ((n.fraction.getD []).length - left : Nat)) = .ok x) :
    ∃ x, n.float = .ok x := by
  obtain ⟨x, hx⟩ := hscale
  refine ⟨if n.negative then -x else x, ?_⟩
  rw [Numeral.float]
  simp only [hwhole, hfraction]
  cases hexponent : n.exponent with
  | none =>
    simp only [Numeral.power, hexponent] at hx
    simp only [Nat.cast_zero, hx]
    rfl
  | some e =>
    obtain ⟨negative, ds⟩ := e
    simp only [Numeral.power, hexponent] at hx hpower
    have hmax : ¬maxExponent < digitsValue ds := by
      split at hpower <;> omega
    have hpoint : (if negative then
          ((0 : Nat) : Int) - ((n.fraction.getD []).length - left : Nat) - digitsValue ds
        else ((0 : Nat) : Int) - ((n.fraction.getD []).length - left : Nat) + digitsValue ds) =
        (if negative then -(digitsValue ds : Int) else digitsValue ds) -
          ((n.fraction.getD []).length - left : Nat) := by
      cases negative <;> simp only [Bool.false_eq_true, if_true, if_false] <;> omega
    simp only [if_neg hmax, hpoint, hx]
    rfl

/-- A significand and the number of digits that are left, for digits that are worth so much. -/
structure IsCut (total significand left : Nat) : Prop where
  le_max : significand ≤ maxSignificand
  le : significand * 10 ^ left ≤ total
  fits : total ≤ maxSignificand → significand = total ∧ left = 0

theorem isCut_absorb {n : Nat} (hn : n ≤ maxSignificand) (ds : List Nat) :
    IsCut (digitsAfter n ds) (absorb n ds).1 (absorb n ds).2 where
  le_max := absorb_le ds hn
  le := by
    obtain ⟨taken, left, rfl, habsorb⟩ := absorb_eq n ds
    rw [habsorb, digitsAfter_append]
    exact mul_pow_le_digitsAfter _ left
  fits := fun hfits => by
    rw [absorb_of_fits hfits]
    exact ⟨rfl, rfl⟩

theorem left_le (n : Nat) (ds : List Nat) : (absorb n ds).2 ≤ ds.length := by
  obtain ⟨taken, left, rfl, habsorb⟩ := absorb_eq n ds
  rw [habsorb, List.length_append]
  exact Nat.le_add_left _ _

/-- A number is read if the digits that there is place for can be scaled. -/
theorem exists_value_of_isScalable {n : Numeral} {fraction : List Nat}
    (hfraction : n.fraction.getD [] = fraction) (hsome : n.fraction.isSome || n.exponent.isSome)
    (hwhole : digitsAfter 0 n.whole ≤ maxSignificand) (hpower : n.power.natAbs ≤ maxExponent)
    (h : ∀ significand left e : Nat, left ≤ fraction.length →
      IsCut (digitsAfter (digitsAfter 0 n.whole) fraction) significand left →
      (e : Int) = n.power - (fraction.length - left : Nat) → IsScalable significand e) :
    ∃ x, n.value = .ok x := by
  subst hfraction
  have hcut := isCut_absorb hwhole (n.fraction.getD [])
  obtain ⟨x, hx⟩ := exists_float (absorb_of_fits hwhole) rfl hpower
    (scale_ok hcut.le_max fun e he => h _ _ e (left_le _ _) hcut he.symm)
  refine ⟨.float x, ?_⟩
  rw [Numeral.value, absorb_of_fits hwhole]
  simp only [hsome, Bool.true_or, if_true, hx]
  rfl

theorem digitsAfter_lt {ds : List Nat} (h : ∀ d ∈ ds, d ≤ 9) (n : Nat) :
    digitsAfter n ds < (n + 1) * 10 ^ ds.length := by
  induction ds generalizing n with
  | nil => simp [digitsAfter]
  | cons d ds ih =>
    rw [List.forall_mem_cons] at h
    calc digitsAfter n (d :: ds) < (n * 10 + d + 1) * 10 ^ ds.length := ih h.2 _
      _ ≤ ((n + 1) * 10) * 10 ^ ds.length := Nat.mul_le_mul_right _ (by omega)
      _ = (n + 1) * 10 ^ (d :: ds).length := by rw [List.length_cons, Nat.pow_succ']; ring

theorem le_nine_of_mem_digitValues {cs : List Char} (h : ∀ c ∈ cs, c.isDigit = true) :
    ∀ d ∈ digitValues cs, d ≤ 9 := by
  intro d hd
  obtain ⟨c, hc, rfl⟩ := List.mem_map.1 hd
  have hbounds := toNat_of_isDigit (h c hc)
  omega

theorem digitsAfter_le_of_length {cs : List Char} (h : ∀ c ∈ cs, c.isDigit = true)
    (hlength : cs.length ≤ 16) : digitsAfter 0 (digitValues cs) ≤ maxSignificand := by
  have hlt := digitsAfter_lt (le_nine_of_mem_digitValues h) 0
  rw [Nat.zero_add, Nat.one_mul, digitValues, List.length_map, ← digitValues] at hlt
  calc digitsAfter 0 (digitValues cs) ≤ 10 ^ 16 :=
        hlt.le.trans (Nat.pow_le_pow_right (by norm_num) hlength)
    _ ≤ maxSignificand := by decide

/-! ## Layouts that are read -/

theorem Layout.getD_fraction (l : Layout) (negative : Bool) :
    (l.numeral negative).fraction.getD [] = digitValues l.fraction := by
  unfold Layout.numeral
  cases l.fraction <;> rfl

theorem Layout.power_numeral (l : Layout) (negative : Bool) :
    (l.numeral negative).power = l.power.getD 0 := by
  unfold Layout.numeral
  cases l.power with
  | none => rfl
  | some e =>
    simp only [Numeral.power, Option.map_some, Layout.powerValues, Option.getD_some]
    change (if decide (e < 0) then -(digitsAfter 0 (digitValues _) : Int) else digitsAfter 0 _) = e
    rw [digitsAfter_toDigits]
    split <;> simp only [decide_eq_true_eq] at * <;> omega

/-- A decimal without a power of ten is read if there is place for its whole part. -/
theorem exists_value_positional {l : Layout} (hl : l.IsSound) (hlength : l.whole.length ≤ 16)
    (hfraction : l.fraction ≠ []) (hpower : l.power = none) (negative : Bool) :
    ∃ x, (l.numeral negative).value = .ok x := by
  have hnone : (l.numeral negative).power = 0 := by
    rw [l.power_numeral, hpower]
    rfl
  have hsome : (l.numeral negative).fraction.isSome = true := by
    unfold Layout.numeral
    obtain ⟨c, cs, hcs⟩ := List.exists_cons_of_ne_nil hfraction
    rw [hcs]
    rfl
  refine exists_value_of_isScalable rfl (by rw [hsome]; rfl)
    (digitsAfter_le_of_length hl.whole.digits hlength) (by rw [hnone]; decide) ?_
  intro significand left e _ hcut he
  obtain rfl : e = 0 := by omega
  refine .below ?_
  rw [Nat.pow_zero, Nat.mul_one]
  exact hcut.le_max.trans (by decide +kernel)

theorem digitValues_pos {d : Char} (hd : d.isDigit = true) (hne : d ≠ '0') : 0 < d.toNat - 48 := by
  have hbounds := toNat_of_isDigit hd
  have hzero : d.toNat ≠ 48 := fun h => hne (Char.toNat_inj.1 h)
  omega

theorem two_zpow_lt_ten_zpow : (2 : ℚ) ^ (1024 : Int) < 10 ^ (309 : Int) := by
  have hnat : 2 ^ 1024 < 10 ^ 309 := by decide +kernel
  have hcast : ((2 ^ 1024 : Nat) : ℚ) < ((10 ^ 309 : Nat) : ℚ) := Nat.cast_lt.2 hnat
  rwa [Nat.cast_pow, Nat.cast_pow, ← zpow_natCast, ← zpow_natCast] at hcast

theorem power_bounds {s : Scaled} (hs : s.IsModerate) {d : Char} {others : List Char}
    (hds : Nat.toDigits 10 s.coefficient = d :: others) :
    -324 ≤ others.length + s.exponent ∧ others.length + s.exponent ≤ 308 := by
  have hlow := hs.low
  refine ⟨by omega, ?_⟩
  rcases Nat.eq_zero_or_pos s.coefficient with hzero | hpos
  · rw [hzero, Nat.toDigits_zero] at hds
    cases hds
    rw [hs.zero hzero]
    decide
  · have hd : 1 ≤ d.toNat - 48 := by
      have hhead := head_toDigits hpos
      rw [hds] at hhead
      have hdigits := (isWhole_toDigits s.coefficient).digits
      rw [hds] at hdigits
      exact digitValues_pos (hdigits d List.mem_cons_self) fun h => hhead (congrArg some h)
    have hcoefficient : 10 ^ others.length ≤ s.coefficient := by
      have hle := mul_pow_le_digitsAfter (0 * 10 + (d.toNat - 48)) (digitValues others)
      change _ ≤ digitsAfter 0 (digitValues (d :: others)) at hle
      rw [← hds, digitsAfter_toDigits, digitValues, List.length_map] at hle
      exact (Nat.le_mul_of_pos_left _ (by omega)).trans hle
    have hpow : (10 : ℚ) ^ (others.length + s.exponent) < 10 ^ (309 : Int) := by
      calc (10 : ℚ) ^ (others.length + s.exponent)
          = ((10 ^ others.length : Nat) : ℚ) * 10 ^ s.exponent := by
            rw [zpow_add₀ (by norm_num), zpow_natCast, Nat.cast_pow, Nat.cast_ofNat]
        _ ≤ s.coefficient * 10 ^ s.exponent := by
            refine mul_le_mul_of_nonneg_right ?_ (zpow_pos (by norm_num) _).le
            exact_mod_cast hcoefficient
        _ ≤ 2 ^ (1024 : Int) := hs.le
        _ < 10 ^ (309 : Int) := two_zpow_lt_ten_zpow
    have hexponent := (zpow_lt_zpow_iff_right₀ (by norm_num)).1 hpow
    omega

/-- A decimal with a power of ten is read if it is of moderate size. -/
theorem exists_value_of_isModerate {s : Scaled} (hs : s.IsModerate) {d : Char} {others : List Char}
    (hds : Nat.toDigits 10 s.coefficient = d :: others) (negative : Bool) :
    ∃ x, ((Layout.mk [d] others (some (others.length + s.exponent))).numeral negative).value =
      .ok x := by
  have hdigits := (isWhole_toDigits s.coefficient).digits
  rw [hds] at hdigits
  have htotal :
      digitsAfter (digitsAfter 0 (digitValues [d])) (digitValues others) = s.coefficient := by
    rw [← digitsAfter_append, ← digitsAfter_toDigits s.coefficient, hds]
    rfl
  have hone : digitsAfter 0 (digitValues [d]) ≤ maxSignificand :=
    digitsAfter_le_of_length (List.forall_mem_singleton.2 (hdigits d List.mem_cons_self)) (by simp)
  obtain ⟨hlow, hhigh⟩ := power_bounds hs hds
  refine exists_value_of_isScalable (Layout.getD_fraction _ _) (by simp [Layout.numeral]) hone ?_ ?_
  · rw [Layout.power_numeral, Option.getD_some, maxExponent]
    omega
  · intro significand left e hleft hcut he
    dsimp only [Layout.numeral] at hcut
    rw [htotal] at hcut
    rw [Layout.power_numeral, Option.getD_some] at he
    rw [digitValues, List.length_map] at he hleft
    dsimp only at he hleft
    refine hs.scalable hcut.le hcut.fits ?_
    omega

theorem layout_positional {style : Style} {s : Scaled} {point : Int}
    (hpoint : (Nat.toDigits 10 s.coefficient).length + s.exponent = point)
    (h : style.isPositional point = true) : (layout style s).whole.length ≤ max 1 point.toNat ∧
      (layout style s).fraction ≠ [] ∧ (layout style s).power = none := by
  rw [layout]
  simp only [hpoint, if_pos h]
  split
  · refine ⟨?_, List.cons_ne_nil _ _, rfl⟩
    rw [List.length_append, List.length_replicate]
    omega
  · split
    · refine ⟨?_, ?_, rfl⟩
      · rw [List.length_take]
        omega
      · rw [ne_eq, List.drop_eq_nil_iff]
        omega
    · exact ⟨le_max_left _ _, List.append_ne_nil_of_right_ne_nil _ Nat.toDigits_ne_nil, rfl⟩

theorem exists_value_layout {s : Scaled} (hs : s.IsModerate) (negative : Bool) :
    ∃ x, ((layout Number.style s).numeral negative).value = .ok x := by
  obtain ⟨point, hpoint⟩ : ∃ point : Int,
      (Nat.toDigits 10 s.coefficient).length + s.exponent = point := ⟨_, rfl⟩
  by_cases hpositional : Number.style.isPositional point = true
  · obtain ⟨hlength, hfraction, hpower⟩ := layout_positional hpoint hpositional
    simp only [Number.style, Bool.and_eq_true, decide_eq_true_eq] at hpositional
    exact exists_value_positional (isSound_layout _ hs.zero) (by omega) hfraction hpower negative
  · obtain ⟨d, others, hds⟩ := List.exists_cons_of_ne_nil
      (Nat.toDigits_ne_nil (b := 10) (n := s.coefficient))
    have hexponent : point - 1 = others.length + s.exponent := by
      rw [← hpoint, hds, List.length_cons]
      omega
    rw [layout]
    simp only [hpoint, if_neg hpositional, hexponent]
    rw [hds]
    exact exists_value_of_isModerate hs hds negative

/-! ## Floating-point numbers -/

theorem Number.isSpelled_of_layout {n : Number} {l : Layout} {negative : Bool}
    (htext : n.text.toList = signChars negative ++ l.chars) (hl : l.IsSound) :
    n.IsSpelled (l.numeral negative) := by
  intro rest hrest
  rw [htext, List.append_assoc]
  exact Layout.tokensOf_chars hl hrest negative

theorem isSound_zero : (Layout.mk ['0'] ['0'] none).IsSound := ⟨isWhole_zero, isWhole_zero.digits⟩

/-- The text of a finite number is read as a number. -/
theorem Number.isReadable_float {x : Float} (hx : x.isFinite = true) :
    (Number.float x).IsReadable := by
  have hsign : (if isNegative x then "-" else "").toList = signChars (isNegative x) := by
    cases isNegative x <;> rfl
  rcases Nat.eq_zero_or_pos (Binary.ofFloat x).significand with hzero | hpos
  · refine ⟨_, isSpelled_of_layout (l := ⟨['0'], ['0'], none⟩) ?_ isSound_zero,
      exists_value_positional isSound_zero (by decide) (List.cons_ne_nil _ _) rfl (isNegative x)⟩
    rw [Number.text, floatText, if_pos hzero, String.toList_append, hsign]
    rfl
  · have hmoderate := isModerate_shortest (isInRange_ofFloat hx) hpos Number.style.halfUp
    refine ⟨_, isSpelled_of_layout ?_ (isSound_layout Number.style hmoderate.zero),
      exists_value_layout hmoderate (isNegative x)⟩
    rw [Number.text, floatText, if_neg hpos.ne', String.toList_append, hsign, toList_text]

theorem isFinite_of_float {n : Numeral} {x : Float} (h : n.float = .ok x) : x.isFinite = true := by
  have hsigned : ∀ {r : Except Cause Float}, (∀ y, r = .ok y → y.isFinite = true) →
      (do let magnitude ← r; return if n.negative then -magnitude else magnitude) = Except.ok x →
        x.isFinite = true := by
    intro r hr hx
    obtain ⟨magnitude, hmagnitude, hx⟩ := bind_eq_ok_iff.1 hx
    cases hx
    split
    · exact isFinite_neg (hr _ hmagnitude)
    · exact hr _ hmagnitude
  simp only [Numeral.float] at h
  split at h
  · exact hsigned (fun y => isFinite_of_scale) h
  · split at h
    · split at h
      · cases h
      · refine hsigned (fun y hy => ?_) h
        cases hy
        decide +kernel
    · exact hsigned (fun y => isFinite_of_scale) h

theorem isFinite_of_value {m : Numeral} {x : Float} (h : m.value = .ok (.float x)) :
    x.isFinite = true := by
  have hfloat : m.float.map .float = .ok (Number.float x) → x.isFinite = true := by
    intro hmap
    obtain ⟨y, hy, ⟨⟩⟩ := map_eq_ok_iff.1 hmap
    exact isFinite_of_float hy
  simp only [Numeral.value] at h
  split at h
  · exact hfloat h
  · split at h
    · cases h
    · split at h
      · exact hfloat h
      · cases h

theorem Number.isReadable_of_value {m : Numeral} {n : Number} (h : m.value = .ok n) :
    n.IsReadable := by
  cases n with
  | integer i => exact (Number.isReadBack_integer h).isReadable
  | float x => exact Number.isReadable_float (isFinite_of_value h)

/-! ## Integral numbers -/

/-- The number is an integer.  The digits -0 are read as a floating-point number. -/
inductive Number.IsIntegral : Number → Prop where
  | integer (i : Int) : IsIntegral (.integer i)
  | negativeZero : IsIntegral (.float (-0.0))

theorem scale_zero_down : scale 0 (-1) = .ok 0.0 := by
  have hquotient : (UInt64.ofNat 0).toFloat / powerOfTen 1 = 0.0 := by decide +kernel
  rw [scale, if_pos (by decide), divideByPower, if_pos (by decide)]
  exact congrArg Except.ok hquotient

theorem Number.isReadBack_negativeZero : (Number.float (-0.0)).IsReadBack := by
  have htext : (Number.float (-0.0)).text = "-0.0" := by decide +kernel
  refine ⟨(Layout.mk ['0'] ['0'] none).numeral true, isSpelled_of_layout ?_ isSound_zero, ?_⟩
  · rw [htext]
    rfl
  · change Except.map Number.float (do
      let magnitude ← scale 0 (-1)
      return -magnitude) = _
    rw [scale_zero_down]
    rfl

/-- An integral number that has been read is read back. -/
theorem Number.isReadBack_of_isIntegral {m : Numeral} {n : Number} (h : m.value = .ok n)
    (hn : n.IsIntegral) : n.IsReadBack := by
  cases hn with
  | integer i => exact Number.isReadBack_integer h
  | negativeZero => exact Number.isReadBack_negativeZero

end Ingest.Json
