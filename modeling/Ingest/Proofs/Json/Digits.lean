import Ingest.Proofs.Json.Rendering
import Mathlib.Tactic.Positivity
import Mathlib.Tactic.Ring
/-!
# Digits of numbers

What the digits of a number are read as: a significand of 64 bits, and the number of digits that it
has no place for.  An integer that has been read is written with digits that are read as that
integer.
-/

namespace Ingest.Json

/-! ## The value of digits -/

/-- Digits, read behind others that are worth `n`. -/
def digitsAfter (n : Nat) (ds : List Nat) : Nat := ds.foldl (fun n d => n * 10 + d) n

theorem digitsAfter_append (n : Nat) (ds es : List Nat) :
    digitsAfter n (ds ++ es) = digitsAfter (digitsAfter n ds) es := List.foldl_append

theorem mul_pow_le_digitsAfter (n : Nat) (ds : List Nat) :
    n * 10 ^ ds.length ≤ digitsAfter n ds := by
  induction ds generalizing n with
  | nil => simp [digitsAfter]
  | cons d ds ih =>
    calc n * 10 ^ (d :: ds).length
        = n * 10 * 10 ^ ds.length := by rw [List.length_cons, Nat.pow_succ]; ring
      _ ≤ (n * 10 + d) * 10 ^ ds.length := Nat.mul_le_mul_right _ (Nat.le_add_right _ _)
      _ ≤ digitsAfter n (d :: ds) := ih (n * 10 + d)

theorem le_digitsAfter (n : Nat) (ds : List Nat) : n ≤ digitsAfter n ds :=
  (Nat.le_mul_of_pos_right n (by positivity)).trans (mul_pow_le_digitsAfter n ds)

/-- The significand is worth the digits up to those that are left. -/
theorem absorb_eq (n : Nat) (ds : List Nat) : ∃ taken left, ds = taken ++ left ∧
    absorb n ds = (digitsAfter n taken, left.length) := by
  induction ds generalizing n with
  | nil => exact ⟨[], [], rfl, rfl⟩
  | cons d ds ih =>
    rw [absorb]
    split
    · obtain ⟨taken, left, rfl, habsorb⟩ := ih (n * 10 + d)
      exact ⟨d :: taken, left, rfl, habsorb⟩
    · exact ⟨[], d :: ds, rfl, rfl⟩

theorem absorb_le {n : Nat} (ds : List Nat) (h : n ≤ maxSignificand) :
    (absorb n ds).1 ≤ maxSignificand := by
  induction ds generalizing n with
  | nil => exact h
  | cons d ds ih =>
    rw [absorb]
    split
    · exact ih ‹_›
    · exact h

theorem absorb_of_fits {n : Nat} {ds : List Nat} (h : digitsAfter n ds ≤ maxSignificand) :
    absorb n ds = (digitsAfter n ds, 0) := by
  induction ds generalizing n with
  | nil => rfl
  | cons d ds ih =>
    have hd : n * 10 + d ≤ maxSignificand := (le_digitsAfter _ ds).trans h
    rw [absorb, if_pos hd]
    exact ih h

/-! ## Digits as characters -/

theorem digitsAfter_digitValues (n : Nat) (cs : List Char) :
    digitsAfter n (digitValues cs) = Nat.ofDigitChars 10 cs n := by
  rw [digitsAfter, digitValues, List.foldl_map, Nat.ofDigitChars]
  congr 1
  funext n c
  rw [Nat.mul_comm]
  rfl

/-- The characters are digits, without a zero in front of others. -/
structure IsWhole (cs : List Char) : Prop where
  digits : ∀ c ∈ cs, c.isDigit = true
  nonempty : cs ≠ []
  no_zero : ∀ c others, cs ≠ '0' :: c :: others

theorem toNat_of_isDigit {c : Char} (h : c.isDigit = true) : 48 ≤ c.toNat ∧ c.toNat ≤ 57 := by
  simp only [Char.isDigit, Bool.and_eq_true, decide_eq_true_eq] at h
  exact h

theorem IsWhole.no_zero_value {cs : List Char} (h : IsWhole cs) (d : Nat) (others : List Nat) :
    digitValues cs ≠ 0 :: d :: others := by
  intro heq
  obtain ⟨c, es, rfl, hzero, hes⟩ := List.map_eq_cons_iff.1 heq
  obtain ⟨e, rest, rfl, -, -⟩ := List.map_eq_cons_iff.1 hes
  have hc := toNat_of_isDigit (h.digits c List.mem_cons_self)
  have htoNat : c.toNat = 48 := by omega
  obtain rfl : c = '0' := Char.toNat_inj.1 htoNat
  exact h.no_zero e rest rfl

theorem head_toDigits {n : Nat} (h : 0 < n) : (Nat.toDigits 10 n).head? ≠ some '0' := by
  induction n using Nat.strongRecOn with
  | ind n ih =>
    by_cases hlt : n < 10
    · rw [Nat.toDigits_of_lt_base hlt]
      simp only [List.head?_cons, ne_eq, Option.some.injEq, Nat.digitChar_eq_zero]
      omega
    · have hrest := ih (n / 10) (by omega) (by omega)
      obtain ⟨c, others, hcons⟩ :=
        List.exists_cons_of_ne_nil (Nat.toDigits_ne_nil (b := 10) (n := n / 10))
      rw [hcons] at hrest
      rw [Nat.toDigits_of_base_le (by decide) (by omega), hcons]
      exact hrest

theorem isWhole_toDigits (n : Nat) : IsWhole (Nat.toDigits 10 n) where
  digits := fun _ hc => Nat.isDigit_of_mem_toDigits (by decide) (by decide) hc
  nonempty := Nat.toDigits_ne_nil
  no_zero := by
    intro c others heq
    rcases Nat.eq_zero_or_pos n with rfl | hn
    · rw [Nat.toDigits_zero] at heq
      cases heq
    · apply head_toDigits hn
      rw [heq]
      rfl

theorem digitsAfter_toDigits (n : Nat) : digitsAfter 0 (digitValues (Nat.toDigits 10 n)) = n := by
  rw [digitsAfter_digitValues, Nat.ofDigitChars_ten_toDigits]

/-! ## Numbers as tokens -/

def signChars (negative : Bool) : List Char := if negative then ['-'] else []

theorem tokensOf_own {c : Char} {own rest : List Char} {t : Token} (hspace : isSpace c = false)
    (hscan : scanToken c (own ++ rest) = (t, own.length + 1)) (hlast : t.isLast = false) :
    tokensOf (c :: (own ++ rest)) = t :: tokensOf rest := by
  rw [tokensOf_cons hspace hscan hlast, List.drop_left]

theorem ne_of_isDigit {c d : Char} (hc : c.isDigit = true) (hd : d.isDigit = false) : c ≠ d := by
  rintro rfl
  rw [hc] at hd
  cases hd

theorem isSpace_of_isDigit {c : Char} (h : c.isDigit = true) : isSpace c = false := by
  simp only [isSpace, Bool.or_eq_false_iff, decide_eq_false_iff_not]
  exact ⟨⟨⟨ne_of_isDigit h rfl, ne_of_isDigit h rfl⟩, ne_of_isDigit h rfl⟩, ne_of_isDigit h rfl⟩

/-- A number is one token if what follows its first digits is read up to its end. -/
theorem tokensOf_number {negative : Bool} {whole tail rest : List Char} {m : Numeral}
    (hwhole : IsWhole whole) (htail : Stops Char.isDigit (tail ++ rest))
    (hscan : ∀ length, scanFraction ⟨negative, digitValues whole, none, none⟩ length
      (tail ++ rest) = (.number m, length + tail.length)) :
    tokensOf (signChars negative ++ (whole ++ (tail ++ rest))) = .number m :: tokensOf rest := by
  have hnumber : scanNumber negative (whole ++ tail ++ rest) =
      (.number m, signLength negative + (whole ++ tail).length) := by
    have hlength : (digitValues whole).length = whole.length := List.length_map _
    have hne : digitValues whole ≠ [] := by
      rw [← List.length_pos_iff, hlength]
      exact List.length_pos_iff.2 hwhole.nonempty
    rw [List.append_assoc, scanNumber_of_digits (digits_append hwhole.digits htail) hne
      hwhole.no_zero_value, hlength, List.drop_left, hscan, List.length_append, Nat.add_assoc]
  rw [← List.append_assoc whole]
  cases negative with
  | true =>
    have htoken : scanToken '-' (whole ++ tail ++ rest) =
        (.number m, (whole ++ tail).length + 1) := by
      rw [Nat.add_comm]
      exact hnumber
    exact tokensOf_own rfl htoken rfl
  | false =>
    obtain ⟨c, others, rfl⟩ := List.exists_cons_of_ne_nil hwhole.nonempty
    have hc := hwhole.digits c List.mem_cons_self
    have htoken : scanToken c (others ++ tail ++ rest) =
        (.number m, (others ++ tail).length + 1) := by
      rw [scanToken_digit hc]
      refine hnumber.trans ?_
      rw [signLength, if_neg Bool.false_ne_true, Nat.zero_add]
      rfl
    exact tokensOf_own (isSpace_of_isDigit hc) htoken rfl

theorem Stops.mono {p q : Char → Bool} (h : ∀ c, q c = true → p c = true) {rest : List Char}
    (hstops : Stops p rest) : Stops q rest := by
  intro c hc
  rw [Bool.eq_false_iff]
  intro hq
  have hp := h c hq
  rw [hstops c hc] at hp
  cases hp

section GoesOn

variable {rest : List Char} (h : Stops goesOn rest)

include h

theorem stops_isDigit : Stops Char.isDigit rest :=
  h.mono fun c hc => by simp [goesOn, hc]

theorem stops_isPoint : Stops isPoint rest :=
  h.mono fun c hc => by simp [goesOn, hc]

theorem stops_isExponentMark : Stops isExponentMark rest :=
  h.mono fun c hc => by simp [goesOn, hc]

end GoesOn

/-! ## Integers -/

theorem toList_toString (i : Int) :
    (toString i).toList = signChars (i < 0) ++ Nat.toDigits 10 i.natAbs := by
  cases i with
  | ofNat n => exact Nat.toList_repr
  | negSucc n =>
    change ("-" ++ (n + 1).repr).toList = _
    rw [String.toList_append, Nat.toList_repr, decide_eq_true (Int.negSucc_lt_zero n)]
    rfl

theorem tokensOf_integer (negative : Bool) {whole rest : List Char} (hwhole : IsWhole whole)
    (hrest : Stops goesOn rest) :
    tokensOf (signChars negative ++ (whole ++ rest)) =
      .number ⟨negative, digitValues whole, none, none⟩ :: tokensOf rest :=
  @tokensOf_number negative whole [] rest _ hwhole (stops_isDigit hrest) fun length => by
    rw [List.nil_append, scanFraction_of_stops (stops_isPoint hrest),
      scanExponent_of_stops (stops_isExponentMark hrest)]
    rfl

theorem value_of_absorb {n : Numeral} {significand : Nat}
    (hwhole : absorb 0 n.whole = (significand, 0)) (hfraction : n.fraction = none)
    (hexponent : n.exponent = none) :
    n.value = if !n.negative then .ok (.integer significand)
      else if significand = 0 || 9223372036854775808 < significand then n.float.map .float
      else .ok (.integer (-significand)) := by
  simp [Numeral.value, hwhole, hfraction, hexponent]

/-- The integers that are read as such: those of 64 bits with or without a sign. -/
theorem integer_of_value {m : Numeral} {i : Int} (h : m.value = .ok (.integer i)) :
    (∃ n : Nat, i = n ∧ n ≤ maxSignificand) ∨
      ∃ n : Nat, i = -n ∧ 0 < n ∧ n ≤ 9223372036854775808 := by
  have hmax : (absorb 0 m.whole).1 ≤ maxSignificand := absorb_le m.whole (Nat.zero_le _)
  have hfloat : m.float.map .float ≠ .ok (Number.integer i) := by
    intro hx
    obtain ⟨x, -, hx⟩ := map_eq_ok_iff.1 hx
    cases hx
  simp only [Numeral.value] at h
  split at h
  · exact absurd h hfloat
  · split at h
    · cases h
      exact .inl ⟨_, rfl, hmax⟩
    · split at h
      · exact absurd h hfloat
      · rename_i hrange
        cases h
        simp only [Bool.or_eq_true, decide_eq_true_eq, not_or] at hrange
        exact .inr ⟨_, rfl, by omega, by omega⟩

theorem absorb_toDigits {n : Nat} (h : n ≤ maxSignificand) :
    absorb 0 (digitValues (Nat.toDigits 10 n)) = (n, 0) := by
  have hfits := @absorb_of_fits 0 (digitValues (Nat.toDigits 10 n))
  rw [digitsAfter_toDigits] at hfits
  exact hfits h

theorem Number.isReadBack_integer {m : Numeral} {i : Int} (h : m.value = .ok (.integer i)) :
    (Number.integer i).IsReadBack := by
  have hspelled : ∀ negative n, decide (i < 0) = negative → i.natAbs = n →
      (Number.integer i).IsSpelled ⟨negative, digitValues (Nat.toDigits 10 n), none, none⟩ := by
    rintro negative n rfl rfl rest hrest
    rw [Number.text, toList_toString, List.append_assoc]
    exact tokensOf_integer _ (isWhole_toDigits _) hrest
  rcases integer_of_value h with ⟨n, rfl, hn⟩ | ⟨n, rfl, hpos, hn⟩
  · refine ⟨_, hspelled false n (by simp) (by simp), ?_⟩
    rw [value_of_absorb (absorb_toDigits hn) rfl rfl]
    rfl
  · refine ⟨_, hspelled true n (by simpa using hpos) (by simp), ?_⟩
    have hmax : n ≤ maxSignificand := hn.trans (by decide)
    rw [value_of_absorb (absorb_toDigits hmax) rfl rfl]
    simp [hpos.ne', Nat.not_lt.2 hn]

end Ingest.Json
