import Ingest.Proofs.Json.Quoting
import Mathlib.Logic.Basic
/-!
# Spaces between tokens

How a token is read depends on its own characters and at most the first one behind it, and where a
token has ended, a space would have ended it as well, and so would a mark behind a value.  So spaces
may be put in wherever no token goes across.
-/

namespace Ingest.Json

/-- The character ends what stands before it: it is a space, or a mark that may follow a value. -/
def endsToken (c : Char) : Bool := isSpace c || c = ',' || c = ']' || c = '\x7d'

/-- What stands behind a token begins with the same character as before, or with one that ends the
token. -/
def SameStart (rest rest' : List Char) : Prop :=
  rest'.head? = rest.head? ∨ ∃ c, rest'.head? = some c ∧ endsToken c = true

theorem SameStart.append {rest rest' : List Char} (h : SameStart rest rest') (own : List Char) :
    SameStart (own ++ rest) (own ++ rest') := by
  cases own with
  | nil => exact h
  | cons c own => exact .inl rfl

/-- A token that is read from some characters takes up the first of them, and is read again whatever
else follows instead. -/
def IsSettled (scan : List Char → Token × Nat) (base : Nat) : Prop :=
  ∀ {cs : List Char} {t : Token} {length : Nat}, scan cs = (t, length) → t.isLast = false →
    ∃ own rest, cs = own ++ rest ∧ length = base + own.length ∧
      ∀ rest', SameStart rest rest' → scan (own ++ rest') = (t, length)

/-! ## Quoted texts and words -/

theorem scanText_escaped {c e : Char} (h : escaped? c = some e) (rest : List Char) :
    scanText ('\\' :: c :: rest) = (scanText rest).push (.char e) 2 := by
  have hunit : c ≠ 'u' := by
    rintro rfl
    cases h
  rw [scanText.eq_def]
  split
  -- The equation for two characters is the one that is left.
  case h_5 heq =>
    cases heq
    simp [h]
  case h_7 hpair _ heq =>
    cases heq
    exact absurd rfl fun hslash => hpair c rest hslash rfl
  all_goals
    rename_i heq
    cases heq <;> contradiction

/-- A quoted text ends with its closing quote. -/
theorem scanText_settled {cs : List Char} (h : (scanText cs).ending = .closed) :
    ∃ own rest, cs = own ++ rest ∧ (scanText cs).length = own.length ∧
      ∀ rest', scanText (own ++ rest') = scanText cs := by
  fun_induction scanText cs with
  | case1 | case4 | case7 | case8 | case9 => cases h
  | case2 rest => exact ⟨['"'], rest, rfl, rfl, fun rest' => rfl⟩
  | case3 a b c d rest n hunit ih =>
    obtain ⟨own, others, rfl, hlength, hagain⟩ := ih h
    refine ⟨'\\' :: 'u' :: a :: b :: c :: d :: own, others, rfl, ?_, fun rest' => ?_⟩
    · simp [TextScan.push, hlength]
    · simp [scanText, hunit, hagain]
  | case5 rest =>
    dsimp only at h
    split at h <;> cases h
  | case6 c rest _ _ e hescaped ih =>
    obtain ⟨own, others, rfl, hlength, hagain⟩ := ih h
    refine ⟨'\\' :: c :: own, others, rfl, ?_, fun rest' => ?_⟩
    · simp [TextScan.push, hlength]
    · rw [List.cons_append, List.cons_append, scanText_escaped hescaped, hagain]
  | case10 c rest hquote _ hunit hpair hslash hplain ih =>
    obtain ⟨own, others, rfl, hlength, hagain⟩ := ih h
    have hslash : c ≠ '\\' := by
      rintro rfl
      cases hrest : own ++ others with
      | nil => exact hslash rfl hrest
      | cons d ds => exact hpair d ds rfl hrest
    refine ⟨c :: own, others, rfl, ?_, fun rest' => ?_⟩
    · simp [TextScan.push, hlength]
    · rw [List.cons_append, scanText_cons hquote hslash (by omega), hagain]

theorem closed_of_token {s : TextScan} (h : s.token.isLast = false) : s.ending = .closed := by
  unfold TextScan.token at h
  cases hcause : s.ending.cause? with
  | none =>
    cases hending : s.ending <;> rw [hending] at hcause <;> first | rfl | cases hcause
  | some c =>
    rw [hcause] at h
    dsimp only at h
    split at h
    · contradiction
    all_goals cases h

theorem scanWord_settled {t : Token} {n base : Nat} {ws : List Char} (hn : n = base + ws.length) :
    IsSettled (scanWord t n ws) base := by
  intro cs t' length h hlast
  have hword : ∃ rest, cs = ws ++ rest ∧ t' = t ∧ length = n ∧
      ∀ rest', scanWord t n ws (ws ++ rest') = (t, n) := by
    clear hn
    induction ws generalizing cs with
    | nil =>
      cases h
      exact ⟨cs, rfl, rfl, rfl, fun rest' => rfl⟩
    | cons w ws ih =>
      cases cs with
      | nil =>
        cases h
        cases hlast
      | cons c cs =>
        rw [scanWord] at h
        split at h
        · rename_i hc
          subst hc
          obtain ⟨rest, rfl, rfl, rfl, hagain⟩ := ih h
          refine ⟨rest, rfl, rfl, rfl, fun rest' => ?_⟩
          rw [List.cons_append, scanWord, if_pos rfl, hagain]
        · cases h
          cases hlast
  obtain ⟨rest, rfl, rfl, rfl, hagain⟩ := hword
  exact ⟨ws, rest, rfl, hn, fun rest' _ => hagain rest'⟩

/-! ## Numbers -/

def Stops (p : Char → Bool) (rest : List Char) : Prop := ∀ c, rest.head? = some c → p c = false

theorem mem_of_endsToken {c : Char} (h : endsToken c = true) :
    c ∈ [' ', '\t', '\n', '\r', ',', ']', '\x7d'] := by
  simpa [endsToken, isSpace, or_assoc] using h

/-- What stops what has been read so far is still there, or a character that ends tokens does. -/
theorem SameStart.stops {rest rest' : List Char} (h : SameStart rest rest') {p : Char → Bool}
    (hends : [' ', '\t', '\n', '\r', ',', ']', '\x7d'].any p = false) (hstops : Stops p rest) :
    Stops p rest' := by
  intro c hc
  rcases h with h | ⟨e, hhead, he⟩
  · exact hstops c (h ▸ hc)
  · rw [hhead] at hc
    cases hc
    exact Bool.eq_false_iff.2 (List.any_eq_false.1 hends c (mem_of_endsToken he))

theorem exists_digits (cs : List Char) :
    ∃ ds rest, cs = ds ++ rest ∧ (∀ c ∈ ds, c.isDigit = true) ∧ Stops Char.isDigit rest := by
  induction cs with
  | nil => exact ⟨[], [], rfl, by simp, by simp [Stops]⟩
  | cons c cs ih =>
    cases hc : c.isDigit with
    | true =>
      obtain ⟨ds, rest, rfl, hds, hrest⟩ := ih
      exact ⟨c :: ds, rest, rfl, List.forall_mem_cons.2 ⟨hc, hds⟩, hrest⟩
    | false => exact ⟨[], c :: cs, rfl, by simp, by simpa [Stops] using hc⟩

section Digits

variable {ds rest : List Char} {n : Numeral} {length : Nat}

def digitValues (ds : List Char) : List Nat := ds.map (·.toNat - 48)

theorem digits_append (hds : ∀ c ∈ ds, c.isDigit = true) (hrest : Stops Char.isDigit rest) :
    digits (ds ++ rest) = digitValues ds := by
  have hnone : rest.takeWhile Char.isDigit = [] := by
    cases rest with
    | nil => rfl
    | cons c rest => simp [hrest c rfl]
  rw [digits, List.takeWhile_append_of_pos hds, hnone, List.append_nil]
  rfl

def isExponentMark (c : Char) : Bool := c = 'e' || c = 'E'

theorem scanExponent_of_stops (h : Stops isExponentMark rest) :
    scanExponent n length rest = (.number n, length) := by
  cases rest with
  | nil => rfl
  | cons c rest =>
    have hc := h c rfl
    simp only [isExponentMark, Bool.or_eq_false_iff, decide_eq_false_iff_not] at hc
    simp [scanExponent, hc.1, hc.2]

def isSign (c : Char) : Bool := c = '-' || c = '+'

/-- The sign before the digits of a power of ten, and whether it says that the power is negative. -/
inductive IsSignOf : List Char → Bool → List Char → Prop where
  | none {rest : List Char} : Stops isSign rest → IsSignOf [] false rest
  | plus (rest : List Char) : IsSignOf ['+'] false rest
  | minus (rest : List Char) : IsSignOf ['-'] true rest

theorem exists_sign (cs : List Char) :
    ∃ sign negative rest, cs = sign ++ rest ∧ IsSignOf sign negative rest := by
  cases cs with
  | nil => exact ⟨[], false, [], rfl, .none (by simp [Stops])⟩
  | cons c cs =>
    by_cases hplus : c = '+'
    · exact ⟨['+'], false, cs, by rw [hplus]; rfl, .plus cs⟩
    · by_cases hminus : c = '-'
      · exact ⟨['-'], true, cs, by rw [hminus]; rfl, .minus cs⟩
      · exact ⟨[], false, c :: cs, rfl, .none (by simp [Stops, isSign, hplus, hminus])⟩

section Mark

variable {e : Char} {sign : List Char} {negative : Bool}

theorem scanExponent_mark (he : isExponentMark e = true) (hsign : IsSignOf sign negative rest) :
    scanExponent n length (e :: (sign ++ rest)) =
      if (digits rest).isEmpty then (brokenNumber rest, 0)
      else (.number { n with exponent := some (negative, digits rest) },
        length + 1 + sign.length + (digits rest).length) := by
  have he' : (e = 'e' || e = 'E') = true := he
  cases hsign with
  | none hfirst =>
    cases rest with
    | nil => simp [scanExponent, he', digits]
    | cons c others =>
      have hc := hfirst c rfl
      simp only [isSign, Bool.or_eq_false_iff, decide_eq_false_iff_not] at hc
      cases hdigits : digits (c :: others) <;> simp [scanExponent, he', hc.1, hc.2, hdigits]
  | plus | minus => cases hdigits : digits rest <;> simp [scanExponent, he', hdigits]

end Mark

end Digits

theorem digits_settled {cs : List Char} (hne : digits cs ≠ []) :
    ∃ own rest, cs = own ++ rest ∧ own ≠ [] ∧ (digits cs).length = own.length ∧
      Stops Char.isDigit rest ∧
        ∀ rest', Stops Char.isDigit rest' → digits (own ++ rest') = digits cs := by
  obtain ⟨ds, rest, rfl, hds, hrest⟩ := exists_digits cs
  have hdigits := digits_append hds hrest
  refine ⟨ds, rest, rfl, ?_, ?_, hrest, fun rest' h => ?_⟩
  · rintro rfl
    exact hne hdigits
  · rw [hdigits, digitValues, List.length_map]
  · rw [hdigits, digits_append hds h]

theorem scanExponent_settled (n : Numeral) (base : Nat) :
    IsSettled (scanExponent n base) base := by
  intro cs t length h hlast
  by_cases hstops : Stops isExponentMark cs
  · rw [scanExponent_of_stops hstops] at h
    cases h
    exact ⟨[], cs, rfl, rfl, fun rest' hstart =>
      scanExponent_of_stops (hstart.stops (by decide) hstops)⟩
  · obtain ⟨e, others, rfl, he⟩ : ∃ e others, cs = e :: others ∧ isExponentMark e = true := by
      cases cs with
      | nil => exact absurd (by simp [Stops]) hstops
      | cons e others => exact ⟨e, others, rfl, by simpa [Stops] using hstops⟩
    obtain ⟨sign, negative, more, rfl, hsign⟩ := exists_sign others
    rw [scanExponent_mark he hsign] at h
    cases hdigits : digits more with
    | nil =>
      rw [hdigits, List.isEmpty_nil, if_pos rfl] at h
      cases h
      cases hlast
    | cons d ds =>
      obtain ⟨own, rest, rfl, -, hlength, hrest, hagain⟩ :=
        digits_settled (by simp [hdigits] : digits more ≠ [])
      rw [hdigits] at h hlength hagain
      rw [List.isEmpty_cons, if_neg (by decide)] at h
      cases h
      refine ⟨e :: (sign ++ own), rest, by simp, ?_, fun rest' hstart => ?_⟩
      · simp only [hlength, List.length_cons, List.length_append]
        omega
      · have hsign' : IsSignOf sign negative (own ++ rest') := by
          cases hsign with
          | none hfirst => exact .none ((hstart.append own).stops (by decide) hfirst)
          | plus => exact .plus _
          | minus => exact .minus _
        have hdigits' := hagain rest' (hstart.stops (by decide) hrest)
        rw [List.cons_append, List.append_assoc, scanExponent_mark he hsign', hdigits',
          List.isEmpty_cons, if_neg (by decide)]

def isPoint (c : Char) : Bool := c = '.'

theorem scanFraction_of_stops {n : Numeral} {base : Nat} {cs : List Char} (h : Stops isPoint cs) :
    scanFraction n base cs = scanExponent n base cs := by
  rw [scanFraction.eq_def]
  split
  · exact absurd (h '.' rfl) (by decide)
  · rfl

theorem scanFraction_settled (n : Numeral) (base : Nat) :
    IsSettled (scanFraction n base) base := by
  intro cs t length h hlast
  by_cases hstops : Stops isPoint cs
  · rw [scanFraction_of_stops hstops] at h
    obtain ⟨own, rest, rfl, hlength, hagain⟩ := scanExponent_settled n base h hlast
    refine ⟨own, rest, rfl, hlength, fun rest' hstart => ?_⟩
    rw [scanFraction_of_stops ((hstart.append own).stops (by decide) hstops)]
    exact hagain rest' hstart
  · obtain ⟨more, rfl⟩ : ∃ more, cs = '.' :: more := by
      cases cs with
      | nil => exact absurd (by simp [Stops]) hstops
      | cons c more => exact ⟨more, by simpa [Stops, isPoint] using hstops⟩
    cases hdigits : digits more with
    | nil =>
      simp only [scanFraction, hdigits] at h
      cases h
      cases hlast
    | cons d ds =>
      obtain ⟨point, others, rfl, -, hpoint, hothers, hdigits'⟩ :=
        digits_settled (by simp [hdigits] : digits more ≠ [])
      rw [hdigits] at hpoint hdigits'
      simp only [scanFraction, hdigits, hpoint, List.drop_left] at h
      obtain ⟨own, rest, rfl, hlength, hagain⟩ := scanExponent_settled _ _ h hlast
      refine ⟨'.' :: (point ++ own), rest, by simp, ?_, fun rest' hstart => ?_⟩
      · rw [hlength, List.length_cons, List.length_append]
        omega
      · have hnext := hdigits' (own ++ rest')
          ((hstart.append own).stops (by decide) hothers)
        simp only [List.cons_append, List.append_assoc, scanFraction, hnext, hpoint, List.drop_left]
        exact hagain rest' hstart

def signLength (negative : Bool) : Nat := if negative then 1 else 0

theorem scanNumber_of_digits {negative : Bool} {cs : List Char} {ds : List Nat}
    (h : digits cs = ds) (hne : ds ≠ []) (hzero : ∀ d others, ds ≠ 0 :: d :: others) :
    scanNumber negative cs =
      scanFraction ⟨negative, ds, none, none⟩ (signLength negative + ds.length)
        (cs.drop ds.length) := by
  rw [scanNumber.eq_def, h]
  dsimp only
  split
  · exact absurd rfl hne
  · exact absurd rfl (hzero _ _)
  · rfl

/-- A number takes up a digit at least. -/
theorem scanNumber_settled (negative : Bool) {cs : List Char} {t : Token} {length : Nat}
    (h : scanNumber negative cs = (t, length)) (hlast : t.isLast = false) :
    ∃ d own rest, cs = d :: own ++ rest ∧ length = signLength negative + (d :: own).length ∧
      ∀ rest', SameStart rest rest' → scanNumber negative (d :: own ++ rest') = (t, length) := by
  have hne : digits cs ≠ [] := by
    intro hnone
    simp only [scanNumber, hnone] at h
    cases h
    cases hlast
  have hzero : ∀ d others, digits cs ≠ 0 :: d :: others := by
    intro d others hzero
    simp only [scanNumber, hzero] at h
    cases h
    cases hlast
  rw [scanNumber_of_digits rfl hne hzero] at h
  obtain ⟨whole, others, rfl, hwhole, hlength, hothers, hdigits⟩ := digits_settled hne
  rw [hlength, List.drop_left] at h
  obtain ⟨own, rest, rfl, hown, hagain⟩ := scanFraction_settled _ _ h hlast
  obtain ⟨d, whole, rfl⟩ := List.exists_cons_of_ne_nil hwhole
  refine ⟨d, whole ++ own, rest, by simp, ?_, fun rest' hstart => ?_⟩
  · rw [hown, List.length_cons, List.length_cons, List.length_append]
    omega
  · have hmore := hdigits (own ++ rest') ((hstart.append own).stops (by decide) hothers)
    rw [← List.cons_append, List.append_assoc, scanNumber_of_digits hmore hne hzero, hlength,
      List.drop_left]
    exact hagain rest' hstart

/-! ## Tokens -/

theorem scanToken_digit {c : Char} (h : c.isDigit = true) (rest : List Char) :
    scanToken c rest = scanNumber false (c :: rest) := by
  have hne : ∀ d, d.isDigit = false → c ≠ d := by
    rintro d hd rfl
    rw [hd] at h
    cases h
  simp only [scanToken, hne '[' rfl, hne ']' rfl, hne '\x7b' rfl, hne '\x7d' rfl, hne ',' rfl,
    hne ':' rfl, hne '"' rfl, hne 'n' rfl, hne 't' rfl, hne 'f' rfl, hne '-' rfl, h, if_true,
    if_false]

theorem scanToken_settled (c : Char) : IsSettled (scanToken c) 1 := by
  intro cs t length h hlast
  unfold scanToken at h
  -- Punctuation.
  iterate 6
    replace h := ite_eq_iff.1 h
    rcases h with ⟨rfl, h⟩ | ⟨-, h⟩
    · cases h
      exact ⟨[], cs, rfl, rfl, fun rest' _ => rfl⟩
  replace h := ite_eq_iff.1 h
  rcases h with ⟨rfl, h⟩ | ⟨-, h⟩
  · cases h
    obtain ⟨own, rest, rfl, hlength, hagain⟩ := scanText_settled (closed_of_token hlast)
    refine ⟨own, rest, rfl, by rw [hlength, Nat.add_comm], fun rest' _ => ?_⟩
    have hscan : ∀ rest, scanToken '"' rest = ((scanText rest).token, (scanText rest).length + 1) :=
      fun rest => rfl
    rw [hscan, hagain]
  -- Words.
  iterate 3
    replace h := ite_eq_iff.1 h
    rcases h with ⟨rfl, h⟩ | ⟨-, h⟩
    · exact scanWord_settled (by decide) h hlast
  replace h := ite_eq_iff.1 h
  rcases h with ⟨rfl, h⟩ | ⟨-, h⟩
  · obtain ⟨d, own, rest, rfl, hlength, hagain⟩ := scanNumber_settled true h hlast
    exact ⟨d :: own, rest, rfl, hlength, hagain⟩
  replace h := ite_eq_iff.1 h
  rcases h with ⟨hdigit, h⟩ | ⟨-, h⟩
  · obtain ⟨d, own, rest, hcs, hlength, hagain⟩ := scanNumber_settled false h hlast
    cases hcs
    refine ⟨own, rest, rfl, ?_, fun rest' hstart => ?_⟩
    · rw [hlength, signLength, List.length_cons]
      simp [Nat.add_comm]
    · rw [scanToken_digit hdigit]
      exact hagain rest' hstart
  · cases h
    cases hlast

/-! ## Spaces -/

theorem tokensOf_space {c : Char} (h : isSpace c = true) (rest : List Char) :
    tokensOf (c :: rest) = tokensOf rest := by
  have hlexemes : lexemesFrom 0 0 (c :: rest) = lexemesFrom 1 0 rest := by simp [lexemesFrom, h]
  rw [tokensOf, hlexemes, map_token_lexemesFrom 1 0, tokensOf]

theorem tokensOf_spaces {spaces : List Char} (h : ∀ c ∈ spaces, isSpace c = true)
    (rest : List Char) : tokensOf (spaces ++ rest) = tokensOf rest := by
  induction spaces with
  | nil => rfl
  | cons c spaces ih =>
    rw [List.forall_mem_cons] at h
    rw [List.cons_append, tokensOf_space h.1, ih h.2]

theorem lexemesFrom_append (index : Nat) (own rest : List Char) :
    lexemesFrom index own.length (own ++ rest) = lexemesFrom (index + own.length) 0 rest := by
  induction own generalizing index with
  | nil => rfl
  | cons c own ih =>
    rw [List.length_cons, List.cons_append, lexemesFrom, ih]
    congr 1
    omega

/-- The token ends before a place or begins behind it. -/
def Lexeme.IsBeside (l : Lexeme) (place : Nat) : Prop :=
  l.start + l.length ≤ place ∨ place ≤ l.start

instance (l : Lexeme) (place : Nat) : Decidable (l.IsBeside place) :=
  inferInstanceAs (Decidable (_ ∨ _))

theorem sameStart_spaces {spaces : List Char} (h : ∀ c ∈ spaces, isSpace c = true)
    (before after : List Char) : SameStart (before ++ after) (before ++ (spaces ++ after)) := by
  refine SameStart.append ?_ before
  cases spaces with
  | nil => exact .inl rfl
  | cons c spaces => exact .inr ⟨c, rfl, by simp [endsToken, h c List.mem_cons_self]⟩

theorem exists_others {before after own rest : List Char} (h : before ++ after = own ++ rest)
    (hshort : own.length ≤ before.length) :
    ∃ others, before = own ++ others ∧ rest = others ++ after := by
  have hown : before.take own.length = own := by
    have htake := congrArg (List.take own.length) h
    rwa [List.take_append_of_le_length hshort, List.take_left] at htake
  refine ⟨before.drop own.length, ?_, ?_⟩
  · rw [← hown, List.length_take, Nat.min_eq_left hshort, List.take_append_drop]
  · have hdrop := congrArg (List.drop own.length) h
    rwa [List.drop_append_of_le_length hshort, List.drop_left, eq_comm] at hdrop

section Token

variable {c : Char} {rest : List Char} {t : Token}

theorem mem_lexemesFrom {length : Nat} (hspace : isSpace c = false)
    (hscan : scanToken c rest = (t, length)) (index : Nat) :
    ⟨t, index, length⟩ ∈ lexemesFrom index 0 (c :: rest) := by
  cases hlast : t.isLast <;> simp [lexemesFrom, hspace, hscan, hlast]

/-- Behind a token that does not break the text off there are those of the rest. -/
theorem lexemesFrom_token {own : List Char} (hspace : isSpace c = false)
    (hscan : scanToken c (own ++ rest) = (t, own.length + 1)) (hlast : t.isLast = false)
    (index : Nat) :
    lexemesFrom index 0 (c :: (own ++ rest)) =
      ⟨t, index, own.length + 1⟩ :: lexemesFrom (index + 1 + own.length) 0 rest := by
  rw [← lexemesFrom_append]
  simp [lexemesFrom, hspace, hscan, hlast]

end Token

theorem tokensOf_insert {spaces : List Char} (hspaces : ∀ c ∈ spaces, isSpace c = true)
    (before after : List Char) (index : Nat)
    (h : ∀ l ∈ lexemesFrom index 0 (before ++ after),
      l.token.isLast = false ∧ l.IsBeside (index + before.length)) :
    tokensOf (before ++ (spaces ++ after)) = tokensOf (before ++ after) := by
  -- The induction is on the characters before the place: a space or a whole token is one step.
  induction hn : before.length using Nat.strongRecOn generalizing before index with
  | ind n ih =>
    subst hn
    cases before with
    | nil => exact tokensOf_spaces hspaces after
    | cons c before =>
      rw [List.cons_append, List.length_cons, Nat.add_comm before.length, ← Nat.add_assoc] at h
      rw [List.cons_append, List.cons_append]
      cases hc : isSpace c with
      | true =>
        rw [lexemesFrom, if_pos hc] at h
        rw [tokensOf_space hc, tokensOf_space hc]
        exact ih before.length (Nat.lt_succ_self _) before (index + 1) h rfl
      | false =>
        obtain ⟨t, length, hscan⟩ : ∃ t length, scanToken c (before ++ after) = (t, length) :=
          ⟨_, _, rfl⟩
        obtain ⟨hlast, hbeside⟩ := h _ (mem_lexemesFrom hc hscan index)
        obtain ⟨own, rest, hrest, hlength, hagain⟩ := scanToken_settled c hscan hlast
        -- The token lies before the place, since it begins before it.
        have hshort : own.length ≤ before.length := by
          unfold Lexeme.IsBeside at hbeside
          dsimp only at hbeside
          omega
        obtain ⟨others, rfl, rfl⟩ := exists_others hrest hshort
        obtain rfl : length = own.length + 1 := by omega
        have hscan' := hagain _ (sameStart_spaces hspaces others after)
        rw [List.append_assoc] at h hscan
        rw [lexemesFrom_token hc hscan hlast, List.forall_mem_cons, List.length_append,
          ← Nat.add_assoc] at h
        rw [List.append_assoc, List.append_assoc, tokensOf_cons hc hscan hlast,
          tokensOf_cons hc hscan' hlast, List.drop_left, List.drop_left]
        have hshorter : others.length < (c :: (own ++ others)).length := by
          rw [List.length_cons, List.length_append]
          omega
        exact congrArg (t :: ·) (ih others.length hshorter others _ h.2 rfl)

/-- Spaces may be put in wherever no token goes across. -/
theorem tokens_insert {before spaces after : String}
    (hlast : ∀ t ∈ tokens (before ++ after), t.isLast = false)
    (hbeside : ∀ l ∈ lexemes (before ++ after), l.IsBeside before.length)
    (hspaces : ∀ c ∈ spaces.toList, isSpace c = true) :
    tokens (before ++ spaces ++ after) = tokens (before ++ after) := by
  have hinsert := tokensOf_insert hspaces before.toList after.toList 0
  simp only [tokens, lexemes, String.toList_append, List.append_assoc] at hlast hbeside ⊢
  refine hinsert fun l hl => ⟨hlast _ (List.mem_map_of_mem hl), ?_⟩
  rw [Nat.zero_add, String.length_toList]
  exact hbeside l hl

end Ingest.Json
