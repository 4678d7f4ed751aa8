import Ingest.Proofs.Text.Octets
import Ingest.Proofs.Text.Percent
import Ingest.Text.Form
/-!
# Form-encoded pairs read back

What separates pairs, and names from values, does not stand in an encoded text, so pairs are cut
where they were put together; and a space, a plus sign and every other character is read back as
itself.  Pairs that are added to a query come behind the ones that it held before.
-/

namespace Ingest.Form

/-! ## Texts -/

/-- A character that an encoded text is written with. -/
def isWritten (c : Char) : Bool := isPlain c || c == '+' || c == '%'

theorem upper_cases (n : Nat) (h : n < 16) : isPlain (Hex.upper n) = true := by
  have hall : ∀ k < 16, isPlain (Hex.upper k) = true := by decide
  exact hall n h

theorem isWritten_encodeByte (b : UInt8) : ∀ c ∈ Percent.encodeByte b, isWritten c = true := by
  intro c hc
  simp only [Percent.encodeByte, List.mem_cons, List.not_mem_nil, or_false] at hc
  rcases hc with hc | hc | hc
  · rw [hc]
    decide
  · rw [hc, isWritten, upper_cases _ (Percent.high_lt b)]
    rfl
  · rw [hc, isWritten, upper_cases _ (Nat.mod_lt _ (by decide))]
    rfl

theorem isWritten_encodeText (s : String) : ∀ c ∈ encodeText s, isWritten c = true := by
  intro c hc
  obtain ⟨d, -, hc⟩ := List.mem_flatMap.1 hc
  unfold encodeChar Percent.encodeChar at hc
  by_cases hspace : d = ' '
  · rw [if_pos hspace, List.mem_singleton] at hc
    rw [hc]
    decide
  · rw [if_neg hspace] at hc
    by_cases hplain : (!isPlain d || decide (0x80 ≤ d.toNat)) = true
    · rw [if_pos hplain] at hc
      obtain ⟨b, -, hb⟩ := List.mem_flatMap.1 hc
      exact isWritten_encodeByte b c hb
    · rw [if_neg hplain, List.mem_singleton] at hc
      rw [hc, isWritten]
      simp only [Bool.or_eq_true, Bool.not_eq_true', not_or, Bool.not_eq_false] at hplain
      rw [hplain.1]
      rfl

theorem not_mem_encodeText {c : Char} (h : isWritten c = false) (s : String) :
    c ∉ encodeText s := by
  intro hc
  rw [isWritten_encodeText s c hc] at h
  cases h

def readPlus (c : Char) : Char := if c = '+' then ' ' else c

theorem map_readPlus_of_not_mem {cs : List Char} (h : '+' ∉ cs) : cs.map readPlus = cs := by
  have hsame : ∀ c ∈ cs, readPlus c = id c := by
    intro c hc
    apply if_neg
    intro hplus
    exact h (hplus ▸ hc)
  rw [List.map_congr_left hsame, List.map_id]

theorem decode_encodeChar (c : Char) (rest : List Char) :
    Percent.decode ((encodeChar c).map readPlus ++ rest) =
      String.utf8EncodeChar c ++ Percent.decode rest := by
  unfold encodeChar
  by_cases hspace : c = ' '
  · rw [if_pos hspace, hspace]
    exact Percent.decode_cons (by decide) rest
  · rw [if_neg hspace]
    -- A plus sign in the encoded text would be one of the original, which is encoded.
    have hplus : '+' ∉ Percent.encodeChar (fun c => !isPlain c) c := by
      intro hmem
      have hself : '+' ∈ Percent.encode (fun c => !isPlain c) [c] :=
        List.mem_append_left [] hmem
      exact absurd (Percent.mem_of_mem_encode (by decide) (by decide) hself).2 (by decide)
    rw [map_readPlus_of_not_mem hplus, Percent.decode_encodeChar (by decide)]

theorem decodeText_encodeText (s : String) : decodeText (encodeText s) = s := by
  have hbytes : ∀ cs : List Char, Percent.decode ((cs.flatMap encodeChar).map readPlus) =
      cs.flatMap String.utf8EncodeChar := by
    intro cs
    induction cs with
    | nil => rfl
    | cons c cs ih =>
        rw [List.flatMap_cons, List.map_append, decode_encodeChar, ih, List.flatMap_cons]
  have hdecode : decodeText (encodeText s) = Utf8.decodeLossy (Utf8.encode s) :=
    congrArg Utf8.decodeLossy (hbytes s.toList)
  rw [hdecode, Utf8.decodeLossy_encode]

/-! ## Pairs -/

theorem decodePair_encodePair (pair : String × String) : decodePair (encodePair pair) = pair := by
  have hname : ∀ c ∈ encodeText pair.1, (decide (c ≠ '=')) = true := by
    intro c hc
    rw [decide_eq_true_eq]
    rintro rfl
    exact not_mem_encodeText (by decide) pair.1 hc
  have htake : (encodePair pair).takeWhile (· ≠ '=') = encodeText pair.1 := by
    rw [encodePair, List.takeWhile_append_of_pos hname, List.takeWhile_cons_of_neg (by decide),
      List.append_nil]
  have hdrop : ((encodePair pair).dropWhile (· ≠ '=')).drop 1 = encodeText pair.2 := by
    rw [encodePair, List.dropWhile_append_of_pos hname, List.dropWhile_cons_of_neg (by decide)]
    rfl
  rw [decodePair, htake, hdrop, decodeText_encodeText, decodeText_encodeText]

theorem ampersand_not_mem_encodePair (pair : String × String) : '&' ∉ encodePair pair := by
  rw [encodePair, List.mem_append, List.mem_cons, not_or, not_or]
  exact ⟨not_mem_encodeText (by decide) pair.1, by decide, not_mem_encodeText (by decide) pair.2⟩

theorem encodePair_ne_nil (pair : String × String) : encodePair pair ≠ [] := by
  rw [encodePair]
  exact List.append_ne_nil_of_right_ne_nil _ (List.cons_ne_nil _ _)

def pairsOf (cs : List Char) : List (String × String) :=
  ((Text.cut '&' cs).filter (!·.isEmpty)).map decodePair

theorem pairsOf_append (cs ds : List Char) :
    pairsOf (cs ++ '&' :: ds) = pairsOf cs ++ pairsOf ds := by
  rw [pairsOf, Text.cut_append, List.filter_append, List.map_append]
  rfl

theorem pairsOf_encodePair (pair : String × String) : pairsOf (encodePair pair) = [pair] := by
  have hne : [encodePair pair].filter (!·.isEmpty) = [encodePair pair] := by
    rw [List.filter_eq_self]
    simp [encodePair_ne_nil pair]
  rw [pairsOf, Text.cut_of_not_mem (ampersand_not_mem_encodePair pair), hne, List.map_singleton,
    decodePair_encodePair]

theorem decode_encode (pairs : List (String × String)) : decode (encode pairs) = pairs := by
  have hpairs : ∀ pair rest, pairsOf (['&'].intercalate ((pair :: rest).map encodePair)) =
      pair :: rest := by
    intro pair rest
    induction rest generalizing pair with
    | nil => rw [List.map_singleton, List.intercalate_singleton, pairsOf_encodePair]
    | cons next rest ih =>
        rw [List.map_cons, List.map_cons, List.intercalate_cons_cons, List.append_assoc,
          List.singleton_append, pairsOf_append, pairsOf_encodePair]
        exact congrArg (pair :: ·) (ih next)
  have hdecode : decode (encode pairs) = pairsOf (['&'].intercalate (pairs.map encodePair)) := by
    rw [decode, encode, String.toList_ofList]
    rfl
  rw [hdecode]
  cases pairs with
  | nil => rfl
  | cons pair rest => exact hpairs pair rest

/-- Added pairs are read behind those that were there, and these stay as they are. -/
theorem decode_append (query : Option String) (pairs : List (String × String)) :
    decode (append query pairs) = decode (query.getD "") ++ pairs := by
  unfold append
  cases query with
  | none => exact decode_encode pairs
  | some q =>
      dsimp only [Option.getD_some]
      by_cases hq : q.isEmpty = true
      · rw [if_pos hq, String.isEmpty_iff.1 hq]
        exact decode_encode pairs
      · rw [if_neg hq]
        have happend : decode (q ++ "&" ++ encode pairs) = decode q ++ decode (encode pairs) := by
          have htext : (q ++ "&" ++ encode pairs).toList =
              q.toList ++ '&' :: (encode pairs).toList := by
            simp [String.toList_append]
          have hpairs := pairsOf_append q.toList (encode pairs).toList
          rw [← htext] at hpairs
          exact hpairs
        rw [happend, decode_encode]

end Ingest.Form
