import Ingest.Text.Base64
/-!
# Base64 read back

The characters that stand for bytes are read as the same bytes.
-/

namespace Ingest.Base64

theorem value?_digit {n : Nat} (h : n < 64) : value? (digit n) = some n := by
  have hall : ∀ k < 64, value? (digit k) = some k := by decide +kernel
  exact hall n h

theorem digit_ne_padding {n : Nat} (h : n < 64) : digit n ≠ '=' := by
  have hnone : value? '=' = none := by decide
  intro hpadding
  have hvalue := value?_digit h
  rw [hpadding, hnone] at hvalue
  cases hvalue

theorem ofNat_eq_of_mod {n : Nat} {b : UInt8} (h : n % 256 = b.toNat) : UInt8.ofNat n = b := by
  apply UInt8.toNat_inj.1
  rw [UInt8.toNat_ofNat']
  exact h

theorem decode?_group {p q r s : Char} {w x y z : Nat} (hs : s ≠ '=') (hp : value? p = some w)
    (hq : value? q = some x) (hr : value? r = some y) (hsv : value? s = some z)
    (rest : List Char) :
    decode? (p :: q :: r :: s :: rest) = do
      let n := ((w * 64 + x) * 64 + y) * 64 + z
      return UInt8.ofNat (n / 65536) :: UInt8.ofNat (n / 256) :: UInt8.ofNat n ::
        (← decode? rest) := by
  rw [decode?, hp, hq, hr, hsv]
  · rfl
  · rintro - rfl
    exact absurd rfl hs
  · rintro rfl
    exact absurd rfl hs

theorem decode?_encode (bytes : Bytes) : decode? (encode bytes) = some bytes := by
  induction bytes using encode.induct with
  | case1 a b c rest ih =>
    have ha := a.toNat_lt
    have hb := b.toNat_lt
    have hc := c.toNat_lt
    have hp : (a.toNat * 65536 + b.toNat * 256 + c.toNat) / 262144 < 64 := by omega
    have hmod : ∀ k, k % 64 < 64 := fun k => Nat.mod_lt k (by decide)
    rw [encode, decode?_group (digit_ne_padding (hmod _)) (value?_digit hp) (value?_digit (hmod _))
      (value?_digit (hmod _)) (value?_digit (hmod _)), ih]
    simp only [pure, Option.bind_eq_bind, Option.bind_some, Option.some.injEq]
    congr 1
    · exact ofNat_eq_of_mod (by omega)
    · congr 1
      · exact ofNat_eq_of_mod (by omega)
      · congr 1
        exact ofNat_eq_of_mod (by omega)
  | case2 a b =>
    have ha := a.toNat_lt
    have hb := b.toNat_lt
    have hp : (a.toNat * 1024 + b.toNat * 4) / 4096 < 64 := by omega
    have hmod : ∀ k, k % 64 < 64 := fun k => Nat.mod_lt k (by decide)
    rw [encode, decode?, value?_digit hp, value?_digit (hmod _), value?_digit (hmod _)]
    · simp only [pure, Option.bind_eq_bind, Option.bind_some, Option.some.injEq]
      congr 1
      · exact ofNat_eq_of_mod (by omega)
      · congr 1
        exact ofNat_eq_of_mod (by omega)
    · exact digit_ne_padding (hmod _)
  | case3 a =>
    have ha := a.toNat_lt
    have hp : a.toNat * 16 / 64 < 64 := by omega
    have hq : a.toNat * 16 % 64 < 64 := Nat.mod_lt _ (by decide)
    rw [encode, decode?, value?_digit hp, value?_digit hq]
    simp only [pure, Option.bind_eq_bind, Option.bind_some, Option.some.injEq]
    congr 1
    exact ofNat_eq_of_mod (by omega)
  | case4 => rfl

/-- A text is read back from its Base64 form. -/
theorem decode?_encodeText (s : String) : decode? (encodeText s).toList = some (Utf8.encode s) := by
  rw [encodeText, String.toList_ofList, decode?_encode]

end Ingest.Base64
