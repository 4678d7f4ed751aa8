import Ingest.Json.Escape
import Ingest.Json.Token
/-!
# Quoted texts, read back

What `quote` writes is one token again, with the text as its content, whatever characters the text
holds.  Each character is taken apart on its own, and joining the pieces gives it back.
-/

namespace Ingest.Json

/-! ## Characters -/

/-- The character is a control without an escape of its own. -/
def isNumbered (c : Char) : Bool :=
  c.toNat < 0x20 && !(['\x08', '\t', '\n', '\x0c', '\r'].contains c)

def pieceOf (c : Char) : Piece := if isNumbered c then .unit c.toNat else .char c

theorem scanText_cons {c : Char} (hquote : c ≠ '"') (hslash : c ≠ '\\') (hplain : 0x20 ≤ c.toNat)
    (rest : List Char) : scanText (c :: rest) = (scanText rest).push (.char c) 1 := by
  rw [scanText.eq_def]
  split
  -- The last equation is the one for characters that are not escaped.
  case h_7 h =>
    cases h
    rw [if_neg (by omega)]
  all_goals
    rename_i h
    cases h <;> contradiction

theorem unit?_control {n : Nat} (h : n < 0x20) :
    unit? '0' '0' (Hex.lower (n / 16)) (Hex.lower (n % 16)) = some n := by
  have hhigh := Hex.value?_lower (n := n / 16) (by omega)
  have hlow := Hex.value?_lower (n := n % 16) (by omega)
  have hzero : Hex.value? '0' = some 0 := by decide
  simp only [unit?, hhigh, hlow, hzero, Option.bind_eq_bind, Option.bind_some, Option.pure_def,
    Option.some.injEq]
  omega

theorem scanText_escapeChar (c : Char) (rest : List Char) :
    scanText (escapeChar c ++ rest) =
      (scanText rest).push (pieceOf c) (escapeChar c).length := by
  by_cases hshort : c = '"' ∨ c = '\\' ∨ c = '\x08' ∨ c = '\t' ∨ c = '\n' ∨ c = '\x0c' ∨ c = '\r'
  · rcases hshort with rfl | rfl | rfl | rfl | rfl | rfl | rfl <;> rfl
  · simp only [not_or] at hshort
    obtain ⟨hquote, hslash, hback, htab, hline, hfeed, hreturn⟩ := hshort
    by_cases hcontrol : c.toNat < 0x20
    · have hescape : escapeChar c =
          ['\\', 'u', '0', '0', Hex.lower (c.toNat / 16), Hex.lower (c.toNat % 16)] := by
        simp [escapeChar, *]
      have hpiece : pieceOf c = .unit c.toNat := by simp [pieceOf, isNumbered, *]
      rw [hpiece, hescape]
      simp only [List.cons_append, List.nil_append, scanText, unit?_control hcontrol]
      rfl
    · have hescape : escapeChar c = [c] := by simp [escapeChar, *]
      have hpiece : pieceOf c = .char c := by simp [pieceOf, isNumbered, hcontrol]
      rw [hpiece, hescape]
      exact scanText_cons hquote hslash (by omega) rest

theorem scanText_quoted (cs rest : List Char) :
    scanText (cs.flatMap escapeChar ++ '"' :: rest) =
      ⟨cs.map pieceOf, .closed, (cs.flatMap escapeChar).length + 1⟩ := by
  induction cs with
  | nil => rfl
  | cons c cs ih =>
    rw [List.flatMap_cons, List.append_assoc, scanText_escapeChar, ih]
    simp only [TextScan.push, List.map_cons, List.length_append, TextScan.mk.injEq, true_and]
    omega

theorem joinPieces_pieceOf (cs : List Char) : joinPieces .closed (cs.map pieceOf) = .ok cs := by
  induction cs with
  | nil => rfl
  | cons c cs ih =>
    rw [List.map_cons]
    cases hnumbered : isNumbered c with
    | false =>
      rw [pieceOf, hnumbered, if_neg Bool.false_ne_true, joinPieces, ih]
      rfl
    | true =>
      have hcontrol : c.toNat < 0x20 := by
        simp only [isNumbered, Bool.and_eq_true, decide_eq_true_eq] at hnumbered
        exact hnumbered.1
      have hlead : isLead c.toNat = false := by simp [isLead]; omega
      have htrail : isTrail c.toNat = false := by simp [isTrail]; omega
      rw [pieceOf, hnumbered, if_pos rfl, joinPieces.eq_def]
      simp only [hlead, htrail, ih, Bool.false_eq_true, if_false, Char.ofNat_toNat]
      rfl

/-! ## Tokens -/

def tokensOf (cs : List Char) : List Token := (lexemesFrom 0 0 cs).map (·.token)

/-- Where the characters stand does not matter. -/
theorem map_token_lexemesFrom (i j used : Nat) (cs : List Char) :
    (lexemesFrom i used cs).map (·.token) = (lexemesFrom j used cs).map (·.token) := by
  induction cs generalizing i j used with
  | nil => cases used <;> rfl
  | cons c cs ih =>
    cases used with
    | succ used => exact ih _ _ used
    | zero =>
      simp only [lexemesFrom]
      split
      · exact ih _ _ 0
      · cases (scanToken c cs).1.isLast with
        | true => rfl
        | false => exact congrArg (_ :: ·) (ih _ _ _)

theorem tokens_lexemesFrom (i used : Nat) (cs : List Char) :
    (lexemesFrom i used cs).map (·.token) = tokensOf (cs.drop used) := by
  induction cs generalizing i used with
  | nil => cases used <;> rfl
  | cons c cs ih =>
    cases used with
    | zero => exact map_token_lexemesFrom i 0 0 (c :: cs)
    | succ used => exact ih (i + 1) used

theorem tokensOf_nil : tokensOf [] = [] := rfl

theorem tokensOf_cons {c : Char} {rest : List Char} {t : Token} {n : Nat}
    (hspace : isSpace c = false) (hscan : scanToken c rest = (t, n + 1)) (hlast : t.isLast = false) :
    tokensOf (c :: rest) = t :: tokensOf (rest.drop n) := by
  have h : lexemesFrom 0 0 (c :: rest) = ⟨t, 0, n + 1⟩ :: lexemesFrom 1 n rest := by
    simp [lexemesFrom, hspace, hscan, hlast]
  rw [tokensOf, h, List.map_cons, tokens_lexemesFrom]

theorem tokensOf_quote (s : String) (rest : List Char) :
    tokensOf ((quote s).toList ++ rest) = .text (.ok s) :: tokensOf rest := by
  have hscan : scanToken '"' (s.toList.flatMap escapeChar ++ '"' :: rest) =
      (.text (.ok s), (s.toList.flatMap escapeChar).length + 1 + 1) := by
    have htoken : (⟨s.toList.map pieceOf, .closed, (s.toList.flatMap escapeChar).length + 1⟩ :
        TextScan).token = .text (.ok s) := by
      simp only [TextScan.token, joinPieces_pieceOf, TextEnd.cause?, Except.map,
        String.ofList_toList]
    simp only [scanToken, scanText_quoted, htoken]
    rfl
  have hquote : (quote s).toList ++ rest =
      '"' :: (s.toList.flatMap escapeChar ++ '"' :: rest) := by
    simp [quote]
  have hdrop : (s.toList.flatMap escapeChar ++ '"' :: rest).drop
      ((s.toList.flatMap escapeChar).length + 1) = rest := by
    rw [← List.drop_drop, List.drop_left, List.drop_one, List.tail_cons]
  rw [hquote, tokensOf_cons rfl hscan rfl, hdrop]

/-! ## Words and marks -/

inductive IsMark : Char → Token → Prop where
  | openList : IsMark '[' .openList
  | closeList : IsMark ']' .closeList
  | openObject : IsMark '\x7b' .openObject
  | closeObject : IsMark '\x7d' .closeObject
  | comma : IsMark ',' .comma
  | colon : IsMark ':' .colon

theorem tokensOf_mark {c : Char} {t : Token} (h : IsMark c t) (rest : List Char) :
    tokensOf (c :: rest) = t :: tokensOf rest := by
  cases h <;> exact tokensOf_cons (n := 0) rfl rfl rfl

theorem tokensOf_null (rest : List Char) :
    tokensOf ("null".toList ++ rest) = .null :: tokensOf rest := by
  change tokensOf ('n' :: 'u' :: 'l' :: 'l' :: rest) = _
  exact tokensOf_cons (n := 3) rfl rfl rfl

theorem tokensOf_bool (b : Bool) (rest : List Char) :
    tokensOf ((if b then "true" else "false").toList ++ rest) = .bool b :: tokensOf rest := by
  cases b with
  | false =>
    change tokensOf ('f' :: 'a' :: 'l' :: 's' :: 'e' :: rest) = _
    exact tokensOf_cons (n := 4) rfl rfl rfl
  | true =>
    change tokensOf ('t' :: 'r' :: 'u' :: 'e' :: rest) = _
    exact tokensOf_cons (n := 3) rfl rfl rfl

end Ingest.Json
