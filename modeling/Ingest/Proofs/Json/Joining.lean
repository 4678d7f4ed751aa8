import Ingest.Proofs.Json.Quoting
import Ingest.Proofs.Json.Spacing
import Ingest.Proofs.Json.Spelling
import Mathlib.Data.List.Forall2
/-!
# Texts put together from values

A text with one value can be put into a list or an object as it stands: its last token ends with it,
whatever mark follows.  So a list of such texts spells the list of their trees, and with keys before
them they spell an object.
-/

namespace Ingest.Json

/-! ## Tokens of texts that follow each other -/

/-- Where a text has its proper end, its tokens are followed by those of what stands behind it. -/
theorem tokensOf_append {own rest : List Char} (hrest : SameStart [] rest)
    (h : ∀ t ∈ tokensOf own, t.isLast = false) :
    tokensOf (own ++ rest) = tokensOf own ++ tokensOf rest := by
  -- The induction is on the characters of the first text: a space or a whole token is one step.
  induction hn : own.length using Nat.strongRecOn generalizing own with
  | ind n ih =>
    subst hn
    cases own with
    | nil => rfl
    | cons c own =>
      cases hc : isSpace c with
      | true =>
        rw [tokensOf_space hc] at h
        rw [List.cons_append, tokensOf_space hc, tokensOf_space hc]
        exact ih own.length (Nat.lt_succ_self _) h rfl
      | false =>
        obtain ⟨t, length, hscan⟩ : ∃ t length, scanToken c own = (t, length) := ⟨_, _, rfl⟩
        have hlast : t.isLast = false :=
          h t (List.mem_map_of_mem (mem_lexemesFrom hc hscan 0))
        obtain ⟨token, others, rfl, hlength, hagain⟩ := scanToken_settled c hscan hlast
        obtain rfl : length = token.length + 1 := by omega
        have hstart := hrest.append others
        rw [List.append_nil] at hstart
        have hscan' := hagain _ hstart
        rw [tokensOf_cons hc hscan hlast, List.drop_left] at h ⊢
        rw [List.cons_append, List.append_assoc, tokensOf_cons hc hscan' hlast, List.drop_left,
          List.cons_append]
        have hshorter : others.length < (c :: (token ++ others)).length := by
          rw [List.length_cons, List.length_append]
          omega
        rw [ih others.length hshorter (List.forall_mem_cons.1 h).2 rfl]

/-- The tokens of a text with one value are followed by those of what stands behind it. -/
theorem Node.Spells.tokensOf_append {v : String} {n : Node} (h : Spells v n) {rest : List Char}
    (hrest : SameStart [] rest) : tokensOf (v.toList ++ rest) = n.tokens ++ tokensOf rest := by
  have hown : tokensOf v.toList = n.tokens := h.tokens
  rw [Json.tokensOf_append hrest, hown]
  rw [hown]
  exact h.whole.isLast_tokens

theorem sameStart_mark (c : Char) (h : endsToken c = true) (rest : List Char) :
    SameStart [] (c :: rest) := .inr ⟨c, rfl, h⟩

/-! ## Lists and objects -/

/-- The text holds one value, without a defect in its punctuation. -/
def IsValueText (v : String) : Prop := ∃ n, Node.Spells v n

def listText (values : List String) : String := "[" ++ Value.commaSeparated values ++ "]"

def memberText (m : String × String) : String := quote m.1 ++ ":" ++ m.2

def objectText (members : List (String × String)) : String :=
  "\x7b" ++ Value.commaSeparated (members.map memberText) ++ "\x7d"

theorem whole_of_forall₂ {α β : Type} {R : α → β → Prop} {node : β → Node}
    (hR : ∀ a b, R a b → (node b).Whole) {as : List α} {bs : List β} (h : List.Forall₂ R as bs) :
    ∀ b ∈ bs, (node b).Whole := by
  induction h with
  | nil => simp
  | cons hab _ ih => exact List.forall_mem_cons.2 ⟨hR _ _ hab, ih⟩

section List

variable {values : List String} {nodes : List Node}

theorem exists_spelled (h : ∀ v ∈ values, IsValueText v) :
    ∃ nodes, List.Forall₂ Node.Spells values nodes := by
  induction values with
  | nil => exact ⟨[], .nil⟩
  | cons v values ih =>
    rw [List.forall_mem_cons] at h
    obtain ⟨n, hn⟩ := h.1
    obtain ⟨nodes, hnodes⟩ := ih h.2
    exact ⟨n :: nodes, .cons hn hnodes⟩

theorem tokensOf_values (h : List.Forall₂ Node.Spells values nodes) {rest : List Char}
    (hrest : SameStart [] rest) :
    tokensOf ((Value.commaSeparated values).toList ++ rest) =
      Node.itemTokens nodes ++ tokensOf rest := by
  induction h with
  | nil => rfl
  | @cons v n values nodes hv hvalues ih =>
    cases hvalues with
    | nil => simpa only [Value.commaSeparated, Node.itemTokens] using hv.tokensOf_append hrest
    | @cons w m values nodes =>
      have hcomma := hv.tokensOf_append
        (sameStart_mark ',' rfl ((Value.commaSeparated (w :: values)).toList ++ rest))
      rw [tokensOf_mark .comma, ih] at hcomma
      simpa [Value.commaSeparated, Node.itemTokens] using hcomma

theorem spells_listText (h : List.Forall₂ Node.Spells values nodes) :
    Node.Spells (listText values) (.list nodes none) where
  tokens := by
    have hvalues := tokensOf_values h (sameStart_mark ']' rfl [])
    rw [tokensOf_mark .closeList] at hvalues
    have hopen := tokensOf_mark .openList ((Value.commaSeparated values).toList ++ [']'])
    rw [hvalues] at hopen
    change tokensOf (listText values).toList = _
    simpa [listText, Node.tokens, tokensOf_nil] using hopen
  whole := .list (whole_of_forall₂ (fun _ _ hv => hv.whole) h)

end List

section Object

structure SpellsMember (m : String × String) (e : Key × Node) : Prop where
  key : e.1 = .ok m.1
  value : Node.Spells m.2 e.2

variable {members : List (String × String)} {entries : List (Key × Node)}

theorem tokensOf_memberText {m : String × String} {e : Key × Node} (h : SpellsMember m e)
    {rest : List Char} (hrest : SameStart [] rest) :
    tokensOf ((memberText m).toList ++ rest) =
      .text e.1 :: .colon :: e.2.tokens ++ tokensOf rest := by
  have hkey := tokensOf_quote m.1 (':' :: (m.2.toList ++ rest))
  rw [tokensOf_mark .colon, h.value.tokensOf_append hrest] at hkey
  simpa [memberText, h.key] using hkey

theorem tokensOf_members (h : List.Forall₂ SpellsMember members entries) {rest : List Char}
    (hrest : SameStart [] rest) :
    tokensOf ((Value.commaSeparated (members.map memberText)).toList ++ rest) =
      Node.memberTokens entries ++ tokensOf rest := by
  induction h with
  | nil => rfl
  | @cons m e members entries hm hmembers ih =>
    obtain ⟨key, node⟩ := e
    cases hmembers with
    | nil =>
      simpa only [List.map, Value.commaSeparated, Node.memberTokens] using
        tokensOf_memberText hm hrest
    | @cons w d members entries =>
      have hcomma := tokensOf_memberText hm (sameStart_mark ',' rfl
        ((Value.commaSeparated ((w :: members).map memberText)).toList ++ rest))
      rw [tokensOf_mark .comma, ih] at hcomma
      simpa [Value.commaSeparated, Node.memberTokens] using hcomma

/-- Keys with texts spell the object of their trees. -/
theorem spells_objectText (h : List.Forall₂ SpellsMember members entries) :
    Node.Spells (objectText members) (.object entries none) where
  tokens := by
    have hmembers := tokensOf_members h (sameStart_mark '\x7d' rfl [])
    rw [tokensOf_mark .closeObject] at hmembers
    have hopen := tokensOf_mark .openObject
      ((Value.commaSeparated (members.map memberText)).toList ++ ['\x7d'])
    rw [hmembers] at hopen
    change tokensOf (objectText members).toList = _
    simpa [objectText, Node.tokens, tokensOf_nil] using hopen
  whole := .object (whole_of_forall₂ (fun _ _ hm => hm.value.whole) h)

end Object

end Ingest.Json
