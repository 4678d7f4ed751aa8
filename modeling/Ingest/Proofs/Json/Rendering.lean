import Ingest.Json.Defect
import Ingest.Proofs.Json.Spacing
import Ingest.Proofs.Json.Spelling
/-!
# Values, read back

The text that a value is written as is read again in three steps, and each has a side of its own
here: the tokens of a value, its tree, and what a reader makes of the tree.  Reading undoes writing
but for the order of members, since objects come back sorted, and for numbers whose texts are read
as other numbers.
-/

namespace Ingest.Json

/-! ## Numbers as tokens -/

def goesOn (c : Char) : Bool := c.isDigit || isPoint c || isExponentMark c

namespace Number

/-- The text of a number is one token, wherever it ends. -/
def IsSpelled (n : Number) (m : Numeral) : Prop :=
  ∀ rest, Stops goesOn rest → tokensOf (n.text.toList ++ rest) = .number m :: tokensOf rest

def IsReadable (n : Number) : Prop := ∃ m, n.IsSpelled m ∧ ∃ n', m.value = .ok n'

def IsReadBack (n : Number) : Prop := ∃ m, n.IsSpelled m ∧ m.value = .ok n

theorem IsReadBack.isReadable {n : Number} (h : n.IsReadBack) : n.IsReadable := by
  obtain ⟨m, hm, hvalue⟩ := h
  exact ⟨m, hm, n, hvalue⟩

theorem IsSpelled.tokens_text {n : Number} {m : Numeral} (h : n.IsSpelled m) :
    Json.tokens n.text = [.number m] := by
  have htokens := h [] (by simp [Stops])
  rwa [List.append_nil] at htokens

theorem IsSpelled.root_text {n : Number} {m : Numeral} (h : n.IsSpelled m) :
    (Document.ofText n.text).root = .number m := by
  rw [Document.ofText, h.tokens_text]
  rfl

end Number

/-! ## Values as tokens -/

namespace Value

mutual

def tokens : Value → List Token
  | .null => [.null]
  | .bool b => [.bool b]
  | .number n => Json.tokens n.text
  | .text s => [.text (.ok s)]
  | .list items => .openList :: itemTokens items ++ [.closeList]
  | .object members => .openObject :: memberTokens members ++ [.closeObject]

def itemTokens : List Value → List Token
  | [] => []
  | [v] => v.tokens
  | v :: vs => v.tokens ++ .comma :: itemTokens vs

def memberTokens : List (String × Value) → List Token
  | [] => []
  | [(k, v)] => .text (.ok k) :: .colon :: v.tokens
  | (k, v) :: ms => .text (.ok k) :: .colon :: v.tokens ++ .comma :: memberTokens ms

end

/-- The value holds no numbers, and its lists and objects lie in each other as deep as the number
says at most. -/
inductive Plain : Nat → Value → Prop where
  | null (d : Nat) : Plain d .null
  | bool (d : Nat) (b : Bool) : Plain d (.bool b)
  | text (d : Nat) (s : String) : Plain d (.text s)
  | list {d : Nat} {items : List Value} : (∀ v ∈ items, Plain d v) → Plain (d + 1) (.list items)
  | object {d : Nat} {members : List (String × Value)} :
      (∀ m ∈ members, Plain d m.2) → Plain (d + 1) (.object members)

/-- The numbers of a value have a property, and its lists and objects lie in each other as deep as
the other number says at most. -/
inductive Bounded (P : Number → Prop) : Nat → Value → Prop where
  | null (d : Nat) : Bounded P d .null
  | bool (d : Nat) (b : Bool) : Bounded P d (.bool b)
  | number (d : Nat) {n : Number} : P n → Bounded P d (.number n)
  | text (d : Nat) (s : String) : Bounded P d (.text s)
  | list {d : Nat} {items : List Value} :
      (∀ v ∈ items, Bounded P d v) → Bounded P (d + 1) (.list items)
  | object {d : Nat} {members : List (String × Value)} :
      (∀ m ∈ members, Bounded P d m.2) → Bounded P (d + 1) (.object members)

theorem Plain.bounded {P : Number → Prop} {d : Nat} {v : Value} (h : v.Plain d) :
    v.Bounded P d := by
  induction h with
  | null d => exact .null d
  | bool d b => exact .bool d b
  | text d s => exact .text d s
  | list _ ih => exact .list ih
  | object _ ih => exact .object ih

theorem Bounded.mono {P Q : Number → Prop} (hPQ : ∀ n, P n → Q n) {d : Nat} {v : Value}
    (h : v.Bounded P d) : v.Bounded Q d := by
  induction h with
  | null d => exact .null d
  | bool d b => exact .bool d b
  | number d hn => exact .number d (hPQ _ hn)
  | text d s => exact .text d s
  | list _ ih => exact .list ih
  | object _ ih => exact .object ih

def IsScanned (v : Value) : Prop :=
  ∀ rest, Stops goesOn rest → tokensOf (v.render.toList ++ rest) = v.tokens ++ tokensOf rest

theorem stops_mark {c : Char} {t : Token} (h : IsMark c t) (rest : List Char) :
    Stops goesOn (c :: rest) := by
  rintro _ ⟨⟩
  cases h <;> rfl

theorem tokensOf_items {vs : List Value} (h : ∀ v ∈ vs, v.IsScanned) {rest : List Char}
    (hrest : Stops goesOn rest) : tokensOf ((commaSeparated (renderItems vs)).toList ++ rest) =
      itemTokens vs ++ tokensOf rest := by
  induction vs with
  | nil => rfl
  | cons v vs ih =>
    rw [List.forall_mem_cons] at h
    cases vs with
    | nil =>
      have hv := h.1 rest hrest
      simpa only [renderItems, commaSeparated, itemTokens] using hv
    | cons w ws =>
      have hv := h.1 (',' :: ((commaSeparated (renderItems (w :: ws))).toList ++ rest))
        (stops_mark .comma _)
      rw [tokensOf_mark .comma, ih h.2] at hv
      simpa [renderItems, commaSeparated, itemTokens] using hv

theorem tokensOf_members {ms : List (String × Value)} (h : ∀ m ∈ ms, m.2.IsScanned)
    {rest : List Char} (hrest : Stops goesOn rest) :
    tokensOf ((commaSeparated (renderMembers ms)).toList ++ rest) =
      memberTokens ms ++ tokensOf rest := by
  induction ms with
  | nil => rfl
  | cons m ms ih =>
    obtain ⟨k, v⟩ := m
    rw [List.forall_mem_cons] at h
    cases ms with
    | nil =>
      have hk := tokensOf_quote k (':' :: (v.render.toList ++ rest))
      rw [tokensOf_mark .colon, h.1 rest hrest] at hk
      simpa [renderMembers, commaSeparated, memberTokens] using hk
    | cons w ws =>
      have hk := tokensOf_quote k (':' :: (v.render.toList ++
        ',' :: ((commaSeparated (renderMembers (w :: ws))).toList ++ rest)))
      rw [tokensOf_mark .colon, h.1 _ (stops_mark .comma _), tokensOf_mark .comma, ih h.2] at hk
      simpa [renderMembers, commaSeparated, memberTokens] using hk

theorem isScanned_of_bounded {d : Nat} {v : Value} (h : v.Bounded Number.IsReadable d) :
    v.IsScanned := by
  intro rest hrest
  induction h generalizing rest with
  | null d => exact tokensOf_null rest
  | bool d b => exact tokensOf_bool b rest
  | number d hn =>
    obtain ⟨m, hm, -⟩ := hn
    rw [tokens, hm.tokens_text]
    exact hm rest hrest
  | text d s => exact tokensOf_quote s rest
  | @list d items _ ih =>
    have hitems := tokensOf_items ih (stops_mark .closeList rest)
    rw [tokensOf_mark .closeList] at hitems
    have hopen := tokensOf_mark .openList
      ((commaSeparated (renderItems items)).toList ++ ']' :: rest)
    rw [hitems] at hopen
    simpa [render, tokens] using hopen
  | @object d members _ ih =>
    have hmembers := tokensOf_members ih (stops_mark .closeObject rest)
    rw [tokensOf_mark .closeObject] at hmembers
    have hopen := tokensOf_mark .openObject
      ((commaSeparated (renderMembers members)).toList ++ '\x7d' :: rest)
    rw [hmembers] at hopen
    simpa [render, tokens] using hopen

/-! ## Values as trees -/

mutual

def node : Value → Node
  | .null => .null
  | .bool b => .bool b
  | .number n => (Document.ofText n.text).root
  | .text s => .text (.ok s)
  | .list items => .list (itemNodes items) none
  | .object members => .object (memberNodes members) none

def itemNodes : List Value → List Node
  | [] => []
  | v :: vs => v.node :: itemNodes vs

def memberNodes : List (String × Value) → List (Key × Node)
  | [] => []
  | (k, v) :: ms => (.ok k, v.node) :: memberNodes ms

end

theorem itemTokens_nodes {vs : List Value} (h : ∀ v ∈ vs, v.node.tokens = v.tokens) :
    Node.itemTokens (itemNodes vs) = itemTokens vs := by
  induction vs with
  | nil => rfl
  | cons v vs ih =>
    rw [List.forall_mem_cons] at h
    cases vs with
    | nil => exact h.1
    | cons w ws =>
      have hrest := ih h.2
      simp only [itemNodes] at hrest
      simp only [itemNodes, Node.itemTokens, itemTokens, h.1, hrest]

theorem memberTokens_nodes {ms : List (String × Value)}
    (h : ∀ m ∈ ms, m.2.node.tokens = m.2.tokens) :
    Node.memberTokens (memberNodes ms) = memberTokens ms := by
  induction ms with
  | nil => rfl
  | cons m ms ih =>
    obtain ⟨k, v⟩ := m
    rw [List.forall_mem_cons] at h
    cases ms with
    | nil => simp only [memberNodes, Node.memberTokens, memberTokens, h.1]
    | cons w ws =>
      have hrest := ih h.2
      simp only [memberNodes] at hrest
      simp only [memberNodes, Node.memberTokens, memberTokens, h.1, hrest]

theorem tokens_node {d : Nat} {v : Value} (h : v.Bounded Number.IsReadable d) :
    v.node.tokens = v.tokens := by
  induction h with
  | null | bool | text => rfl
  | number d hn =>
    obtain ⟨m, hm, -⟩ := hn
    rw [node, tokens, hm.root_text, hm.tokens_text, Node.tokens]
  | list _ ih => simp only [node, Node.tokens, tokens, itemTokens_nodes ih]
  | object _ ih => simp only [node, Node.tokens, tokens, memberTokens_nodes ih]

theorem whole_items {vs : List Value} (h : ∀ v ∈ vs, v.node.Whole) :
    ∀ item ∈ itemNodes vs, item.Whole := by
  induction vs with
  | nil => simp [itemNodes]
  | cons v vs ih =>
    rw [List.forall_mem_cons] at h
    exact List.forall_mem_cons.2 ⟨h.1, ih h.2⟩

theorem whole_members {ms : List (String × Value)} (h : ∀ m ∈ ms, m.2.node.Whole) :
    ∀ m ∈ memberNodes ms, m.2.Whole := by
  induction ms with
  | nil => simp [memberNodes]
  | cons m ms ih =>
    rw [List.forall_mem_cons] at h
    exact List.forall_mem_cons.2 ⟨h.1, ih h.2⟩

theorem whole_node {d : Nat} {v : Value} (h : v.Bounded Number.IsReadable d) : v.node.Whole := by
  induction h with
  | null d => exact .null
  | bool d b => exact .bool b
  | number d hn =>
    obtain ⟨m, hm, -⟩ := hn
    rw [node, hm.root_text]
    exact .number m
  | text d s => exact .text (.ok s)
  | list _ ih => exact .list (whole_items ih)
  | object _ ih => exact .object (whole_members ih)

theorem document_render {d : Nat} {v : Value} (h : v.Bounded Number.IsReadable d) :
    Document.ofText v.render = ⟨v.node, false⟩ := by
  have htokens : Json.tokens v.render = v.tokens := by
    have hrender := isScanned_of_bounded h [] (by simp [Stops])
    rw [List.append_nil, tokensOf_nil, List.append_nil] at hrender
    exact hrender
  exact Node.Spells.document ⟨htokens.trans (tokens_node h).symm, whole_node h⟩

/-! ## Values read back -/

mutual

/-- What is read of the text of a value: the members of objects are sorted. -/
def settled : Value → Value
  | .list items => .list (settledItems items)
  | .object members => .ofMembers (settledMembers members)
  | v => v

def settledItems : List Value → List Value
  | [] => []
  | v :: vs => v.settled :: settledItems vs

def settledMembers : List (String × Value) → List (String × Value)
  | [] => []
  | (k, v) :: ms => (k, v.settled) :: settledMembers ms

end

theorem itemValues_nodes {d : Nat} {vs : List Value}
    (h : ∀ v ∈ vs, v.node.value d = .ok v.settled) :
    itemValues d (itemNodes vs) = .ok (settledItems vs) := by
  induction vs with
  | nil => rfl
  | cons v vs ih =>
    rw [List.forall_mem_cons] at h
    simp only [itemNodes, itemValues, h.1, ih h.2]
    rfl

theorem memberValues_nodes {d : Nat} {ms : List (String × Value)}
    (h : ∀ m ∈ ms, m.2.node.value d = .ok m.2.settled) :
    memberValues d (memberNodes ms) = .ok (settledMembers ms) := by
  induction ms with
  | nil => rfl
  | cons m ms ih =>
    rw [List.forall_mem_cons] at h
    simp only [memberNodes, memberValues, h.1, ih h.2]
    rfl

theorem value_node {d e : Nat} {v : Value} (h : v.Bounded Number.IsReadBack d) (he : d < e) :
    v.node.value e = .ok v.settled := by
  induction h generalizing e with
  | null | bool | text => rfl
  | number d hn =>
    obtain ⟨m, hm, hvalue⟩ := hn
    rw [node, hm.root_text, Node.value, hvalue]
    rfl
  | @list d items _ ih =>
    have hitems := itemValues_nodes fun v hv => ih v hv (e := e - 1) (by omega)
    rw [node, Node.value, if_neg (by omega), hitems]
    rfl
  | @object d members _ ih =>
    have hmembers := memberValues_nodes fun m hm => ih m hm (e := e - 1) (by omega)
    rw [node, Node.value, if_neg (by omega), hmembers]
    rfl

theorem exists_itemValues_nodes {d : Nat} {vs : List Value}
    (h : ∀ v ∈ vs, ∃ w, v.node.value d = .ok w) : ∃ ws, itemValues d (itemNodes vs) = .ok ws := by
  induction vs with
  | nil => exact ⟨[], rfl⟩
  | cons v vs ih =>
    rw [List.forall_mem_cons] at h
    obtain ⟨w, hw⟩ := h.1
    obtain ⟨ws, hws⟩ := ih h.2
    refine ⟨w :: ws, ?_⟩
    simp only [itemNodes, itemValues, hw, hws]
    rfl

theorem exists_memberValues_nodes {d : Nat} {ms : List (String × Value)}
    (h : ∀ m ∈ ms, ∃ w, m.2.node.value d = .ok w) :
    ∃ ws, memberValues d (memberNodes ms) = .ok ws := by
  induction ms with
  | nil => exact ⟨[], rfl⟩
  | cons m ms ih =>
    rw [List.forall_mem_cons] at h
    obtain ⟨w, hw⟩ := h.1
    obtain ⟨ws, hws⟩ := ih h.2
    refine ⟨(m.1, w) :: ws, ?_⟩
    simp only [memberNodes, memberValues, hw, hws]
    rfl

theorem exists_value_node {d e : Nat} {v : Value} (h : v.Bounded Number.IsReadable d)
    (he : d < e) : ∃ w, v.node.value e = .ok w := by
  induction h generalizing e with
  | null => exact ⟨.null, rfl⟩
  | bool d b => exact ⟨.bool b, rfl⟩
  | text d s => exact ⟨.text s, rfl⟩
  | number d hn =>
    obtain ⟨m, hm, n, hvalue⟩ := hn
    refine ⟨.number n, ?_⟩
    rw [node, hm.root_text, Node.value, hvalue]
    rfl
  | @list d items _ ih =>
    obtain ⟨ws, hws⟩ := exists_itemValues_nodes fun v hv => ih v hv (e := e - 1) (by omega)
    refine ⟨.list ws, ?_⟩
    rw [node, Node.value, if_neg (by omega), hws]
    rfl
  | @object d members _ ih =>
    obtain ⟨ws, hws⟩ := exists_memberValues_nodes fun m hm => ih m hm (e := e - 1) (by omega)
    refine ⟨.ofMembers ws, ?_⟩
    rw [node, Node.value, if_neg (by omega), hws]
    rfl

theorem ofText_eq_ok_of_read {s : String} {v : Value} (h : Reader.value.read s = .ok v) :
    Value.ofText s = .ok v := by
  rw [Value.ofText, Reader.ofText, h]
  rfl

theorem read_render {d : Nat} {v w : Value} (h : v.Bounded Number.IsReadable d)
    (hw : v.node.value maxDepth = .ok w) : Value.ofText v.render = .ok w := by
  refine ofText_eq_ok_of_read ?_
  simp only [Reader.read, document_render h, Document.read, Reader.value, hw]
  rfl

/-- A value whose numbers are read back is itself read back. -/
theorem ofText_render_of_bounded {d : Nat} {v : Value} (h : v.Bounded Number.IsReadBack d)
    (hd : d < maxDepth) : Value.ofText v.render = .ok v.settled :=
  read_render (h.mono fun _ => Number.IsReadBack.isReadable) (value_node h hd)

/-- The text of a value is a document if its numbers can be read. -/
theorem exists_ofText_render {d : Nat} {v : Value} (h : v.Bounded Number.IsReadable d)
    (hd : d < maxDepth) : ∃ w, Value.ofText v.render = .ok w := by
  obtain ⟨w, hw⟩ := exists_value_node h hd
  exact ⟨w, read_render h hw⟩

theorem ofText_render {d : Nat} {v : Value} (h : v.Plain d) (hd : d < maxDepth) :
    Value.ofText v.render = .ok v.settled := ofText_render_of_bounded h.bounded hd

end Value

end Ingest.Json
