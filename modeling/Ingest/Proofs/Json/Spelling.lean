import Ingest.Json.Reader
import Ingest.Proofs.Result
/-!
# Trees and their tokens

A tree without defects is spelled by one list of tokens.  Reading these tokens builds the tree
again, wherever a value may stand, and a tree without defects is built from its own tokens only.  So
the texts of a tree differ in nothing but the characters that their tokens are written with.
-/

namespace Ingest.Json

/-! ## Trees without defects -/

@[elab_as_elim]
theorem Node.induction {motive : Node → Prop} (null : motive .null)
    (bool : ∀ b, motive (.bool b)) (number : ∀ n, motive (.number n))
    (text : ∀ content, motive (.text content))
    (list : ∀ items stop, (∀ item ∈ items, motive item) → motive (.list items stop))
    (object : ∀ members stop, (∀ m ∈ members, motive m.2) → motive (.object members stop))
    (broken : ∀ stop, motive (.broken stop)) (n : Node) : motive n :=
  match n with
  | .null => null
  | .bool b => bool b
  | .number n => number n
  | .text content => text content
  | .list items stop =>
    list items stop fun item _ => induction null bool number text list object broken item
  | .object members stop =>
    object members stop fun m h =>
      have := List.sizeOf_lt_of_mem h
      induction null bool number text list object broken m.2
  | .broken stop => broken stop
termination_by sizeOf n
decreasing_by
  · have := List.sizeOf_lt_of_mem ‹_ ∈ items›
    simp only [Node.list.sizeOf_spec]
    omega
  · obtain ⟨key, node⟩ := m
    simp only [Node.object.sizeOf_spec, Prod.mk.sizeOf_spec] at *
    omega

namespace Node

/-- The tree holds no defect in its punctuation.  Its texts may still hold what a reader refuses. -/
inductive Whole : Node → Prop where
  | null : Whole .null
  | bool (b : Bool) : Whole (.bool b)
  | number (n : Numeral) : Whole (.number n)
  | text (content : Except Cause String) : Whole (.text content)
  | list {items : List Node} : (∀ item ∈ items, Whole item) → Whole (.list items none)
  | object {members : List (Key × Node)} :
      (∀ m ∈ members, Whole m.2) → Whole (.object members none)

theorem whole_list_iff {items : List Node} {stop : Option Break} :
    (Node.list items stop).Whole ↔ (∀ item ∈ items, item.Whole) ∧ stop = none := by
  constructor
  · rintro ⟨⟩
    exact ⟨‹_›, rfl⟩
  · rintro ⟨h, rfl⟩
    exact .list h

theorem whole_object_iff {members : List (Key × Node)} {stop : Option Break} :
    (Node.object members stop).Whole ↔ (∀ m ∈ members, m.2.Whole) ∧ stop = none := by
  constructor
  · rintro ⟨⟩
    exact ⟨‹_›, rfl⟩
  · rintro ⟨h, rfl⟩
    exact .object h

theorem skipStop_ok_iff {stop : Option Break} : skipStop stop = .ok () ↔ stop = none := by
  cases stop <;> simp [skipStop]

theorem skipItems_ok_iff {items : List Node} :
    skipItems items = .ok () ↔ ∀ item ∈ items, item.skip = .ok () := by
  induction items with
  | nil => simp [skipItems]
  | cons item items ih => simp [skipItems, check_eq_ok_iff, ih]

theorem skipMembers_ok_iff {members : List (Key × Node)} :
    skipMembers members = .ok () ↔ ∀ m ∈ members, m.2.skip = .ok () := by
  induction members with
  | nil => simp [skipMembers]
  | cons m members ih =>
    obtain ⟨key, node⟩ := m
    simp [skipMembers, check_eq_ok_iff, ih]

/-- A value can be passed over if it holds no defect. -/
theorem skip_ok_iff (n : Node) : n.skip = .ok () ↔ n.Whole := by
  induction n using Node.induction with
  | null => exact iff_of_true rfl .null
  | bool b => exact iff_of_true rfl (.bool b)
  | number n => exact iff_of_true rfl (.number n)
  | text content => exact iff_of_true rfl (.text content)
  | list items stop ih =>
    simp only [skip, check_eq_ok_iff, skipItems_ok_iff, skipStop_ok_iff,
      whole_list_iff]
    exact and_congr_left' (forall₂_congr ih)
  | object members stop ih =>
    simp only [skip, check_eq_ok_iff, skipMembers_ok_iff, skipStop_ok_iff,
      whole_object_iff]
    exact and_congr_left' (forall₂_congr ih)
  | broken stop =>
    refine iff_of_false ?_ ?_
    · intro h
      cases h
    · rintro ⟨⟩

/-! ## Spelling -/

mutual

def tokens : Node → List Token
  | .null => [.null]
  | .bool b => [.bool b]
  | .number n => [.number n]
  | .text content => [.text content]
  | .list items _ => .openList :: itemTokens items ++ [.closeList]
  | .object members _ => .openObject :: memberTokens members ++ [.closeObject]
  | .broken stop => [.broken stop]

def itemTokens : List Node → List Token
  | [] => []
  | [item] => item.tokens
  | item :: items => item.tokens ++ .comma :: itemTokens items

def memberTokens : List (Key × Node) → List Token
  | [] => []
  | [(key, node)] => .text key :: .colon :: node.tokens
  | (key, node) :: members => .text key :: .colon :: node.tokens ++ .comma :: memberTokens members

end

/-! ## Building a tree from its tokens -/

def Place.takesValue : Place → Bool
  | .value | .firstItem | .nextItem => true
  | _ => false

def Place.takesKey : Place → Bool
  | .firstKey | .nextKey => true
  | _ => false

def resume (ts : List Token) : Step → Document
  | .whole node => ⟨node, !ts.isEmpty⟩
  | .more p => build p ts
  | .defect node => ⟨node, false⟩

theorem build_cons (p : Partial) (t : Token) (ts : List Token) :
    build p (t :: ts) = resume ts (step p t) := by
  rw [build]
  cases step p t <;> rfl

theorem build_value {place : Place} (hplace : place.takesValue = true) (frames : List Frame)
    {t : Token} (ht : t ≠ .closeList) (ts : List Token) :
    build ⟨place, frames⟩ (t :: ts) = resume ts (startValue frames t) := by
  have hstep : step ⟨place, frames⟩ t = startValue frames t := by
    cases place
    case value | firstItem | nextItem => cases t <;> first | rfl | exact absurd rfl ht
    all_goals cases hplace
  rw [build_cons, hstep]

theorem build_key {place : Place} (hplace : place.takesKey = true) (members : List (Key × Node))
    (outer : List Frame) (key : Key) (ts : List Token) :
    build ⟨place, .object members :: outer⟩ (.text key :: .colon :: ts) =
      build ⟨.value, .member members key :: outer⟩ ts := by
  cases place
  case firstKey | nextKey => rfl
  all_goals cases hplace

theorem build_nextItem (items : List Node) (outer : List Frame) (ts : List Token) :
    build ⟨.afterItem, .list items :: outer⟩ (.comma :: ts) =
      build ⟨.nextItem, .list items :: outer⟩ ts := rfl

theorem build_nextMember (members : List (Key × Node)) (outer : List Frame) (ts : List Token) :
    build ⟨.afterMember, .object members :: outer⟩ (.comma :: ts) =
      build ⟨.nextKey, .object members :: outer⟩ ts := rfl

theorem build_closeList {place : Place} (hplace : place = .firstItem ∨ place = .afterItem)
    (items : List Node) (outer : List Frame) (ts : List Token) :
    build ⟨place, .list items :: outer⟩ (.closeList :: ts) =
      resume ts (supply (.list items.reverse none) outer) := by
  rcases hplace with rfl | rfl <;> exact build_cons _ _ _

theorem build_closeObject {place : Place} (hplace : place = .firstKey ∨ place = .afterMember)
    (members : List (Key × Node)) (outer : List Frame) (ts : List Token) :
    build ⟨place, .object members :: outer⟩ (.closeObject :: ts) =
      resume ts (supply (.object members.reverse none) outer) := by
  rcases hplace with rfl | rfl <;> exact build_cons _ _ _

def IsBuilt (n : Node) : Prop :=
  ∀ (place : Place) (frames : List Frame) (rest : List Token), place.takesValue = true →
    build ⟨place, frames⟩ (n.tokens ++ rest) = resume rest (supply n frames)

theorem build_items {items : List Node} (h : ∀ item ∈ items, item.IsBuilt) (hne : items ≠ [])
    {place : Place} (hplace : place.takesValue = true) (before : List Node) (outer : List Frame)
    (rest : List Token) :
    build ⟨place, .list before :: outer⟩ (itemTokens items ++ rest) =
      build ⟨.afterItem, .list (items.reverse ++ before) :: outer⟩ rest := by
  induction items generalizing place before with
  | nil => exact absurd rfl hne
  | cons item items ih =>
    rw [List.forall_mem_cons] at h
    cases items with
    | nil => exact h.1 place (.list before :: outer) rest hplace
    | cons next others =>
      have hitem := h.1 place (.list before :: outer)
        (.comma :: (itemTokens (next :: others) ++ rest)) hplace
      have hnext : Place.takesValue .nextItem = true := rfl
      have hrest := ih h.2 (List.cons_ne_nil next others) hnext (item :: before)
      calc build ⟨place, .list before :: outer⟩ (itemTokens (item :: next :: others) ++ rest)
          = build ⟨place, .list before :: outer⟩
              (item.tokens ++ .comma :: (itemTokens (next :: others) ++ rest)) := by
            simp [itemTokens]
        _ = build ⟨.nextItem, .list (item :: before) :: outer⟩
              (itemTokens (next :: others) ++ rest) := hitem.trans (build_nextItem _ _ _)
        _ = _ := by
            rw [hrest]
            simp

theorem build_members {members : List (Key × Node)} (h : ∀ m ∈ members, m.2.IsBuilt)
    (hne : members ≠ []) {place : Place} (hplace : place.takesKey = true)
    (before : List (Key × Node)) (outer : List Frame) (rest : List Token) :
    build ⟨place, .object before :: outer⟩ (memberTokens members ++ rest) =
      build ⟨.afterMember, .object (members.reverse ++ before) :: outer⟩ rest := by
  induction members generalizing place before with
  | nil => exact absurd rfl hne
  | cons m members ih =>
    obtain ⟨key, node⟩ := m
    rw [List.forall_mem_cons] at h
    cases members with
    | nil =>
      have hnode := h.1 .value (.member before key :: outer) rest rfl
      calc build ⟨place, .object before :: outer⟩ (memberTokens [(key, node)] ++ rest)
          = build ⟨.value, .member before key :: outer⟩ (node.tokens ++ rest) :=
            build_key hplace before outer key _
        _ = _ := hnode
    | cons next others =>
      have hnode := h.1 .value (.member before key :: outer)
        (.comma :: (memberTokens (next :: others) ++ rest)) rfl
      have hnext : Place.takesKey .nextKey = true := rfl
      have hrest := ih h.2 (List.cons_ne_nil next others) hnext ((key, node) :: before)
      calc build ⟨place, .object before :: outer⟩
            (memberTokens ((key, node) :: next :: others) ++ rest)
          = build ⟨place, .object before :: outer⟩ (.text key :: .colon ::
              (node.tokens ++ .comma :: (memberTokens (next :: others) ++ rest))) := by
            simp [memberTokens]
        _ = build ⟨.value, .member before key :: outer⟩
              (node.tokens ++ .comma :: (memberTokens (next :: others) ++ rest)) :=
            build_key hplace before outer key _
        _ = build ⟨.nextKey, .object ((key, node) :: before) :: outer⟩
              (memberTokens (next :: others) ++ rest) := hnode.trans (build_nextMember _ _ _)
        _ = _ := by
            rw [hrest]
            simp

theorem Whole.isBuilt {n : Node} (h : n.Whole) : n.IsBuilt := by
  induction h with
  | null | bool | number | text =>
    intro place frames rest hplace
    exact build_value hplace frames (by simp) rest
  | @list items _ ih =>
    intro place frames rest hplace
    have hopen : build ⟨place, frames⟩ ((Node.list items none).tokens ++ rest) =
        build ⟨.firstItem, .list [] :: frames⟩ (itemTokens items ++ .closeList :: rest) := by
      rw [tokens, List.cons_append, List.cons_append, List.append_assoc,
        build_value hplace frames (by simp)]
      rfl
    rw [hopen]
    cases items with
    | nil => exact build_closeList (.inl rfl) [] frames rest
    | cons item items =>
      rw [build_items ih (List.cons_ne_nil item items) rfl, build_closeList (.inr rfl)]
      simp
  | @object members _ ih =>
    intro place frames rest hplace
    have hopen : build ⟨place, frames⟩ ((Node.object members none).tokens ++ rest) =
        build ⟨.firstKey, .object [] :: frames⟩ (memberTokens members ++ .closeObject :: rest) := by
      rw [tokens, List.cons_append, List.cons_append, List.append_assoc,
        build_value hplace frames (by simp)]
      rfl
    rw [hopen]
    cases members with
    | nil => exact build_closeObject (.inl rfl) [] frames rest
    | cons m members =>
      rw [build_members ih (List.cons_ne_nil m members) rfl, build_closeObject (.inr rfl)]
      simp

/-! ## Texts -/

theorem isLast_itemTokens {items : List Node}
    (h : ∀ item ∈ items, ∀ t ∈ item.tokens, t.isLast = false) :
    ∀ t ∈ itemTokens items, t.isLast = false := by
  induction items with
  | nil => simp [itemTokens]
  | cons item items ih =>
    rw [List.forall_mem_cons] at h
    cases items with
    | nil => exact h.1
    | cons next others =>
      rw [itemTokens, List.forall_mem_append, List.forall_mem_cons]
      · exact ⟨h.1, rfl, ih h.2⟩
      · simp

theorem isLast_memberTokens {members : List (Key × Node)}
    (h : ∀ m ∈ members, ∀ t ∈ m.2.tokens, t.isLast = false) :
    ∀ t ∈ memberTokens members, t.isLast = false := by
  induction members with
  | nil => simp [memberTokens]
  | cons m members ih =>
    obtain ⟨key, node⟩ := m
    rw [List.forall_mem_cons] at h
    cases members with
    | nil => exact List.forall_mem_cons.2 ⟨rfl, List.forall_mem_cons.2 ⟨rfl, h.1⟩⟩
    | cons next others =>
      simp only [memberTokens, List.cons_append, List.forall_mem_append, List.forall_mem_cons]
      exact ⟨rfl, rfl, h.1, rfl, ih h.2⟩

/-- No token that spells a tree breaks the text off. -/
theorem Whole.isLast_tokens {n : Node} (h : n.Whole) : ∀ t ∈ n.tokens, t.isLast = false := by
  induction h with
  | null | bool | number | text => simp [tokens, Token.isLast]
  | list _ ih =>
    simp only [tokens, List.cons_append, List.forall_mem_append, List.forall_mem_cons]
    exact ⟨rfl, isLast_itemTokens ih, rfl, by simp⟩
  | object _ ih =>
    simp only [tokens, List.cons_append, List.forall_mem_append, List.forall_mem_cons]
    exact ⟨rfl, isLast_memberTokens ih, rfl, by simp⟩

structure Spells (s : String) (n : Node) : Prop where
  tokens : Json.tokens s = n.tokens
  whole : n.Whole

/-- A text that spells a tree is read as that tree. -/
theorem Spells.document {s : String} {n : Node} (h : Spells s n) :
    Document.ofText s = ⟨n, false⟩ := by
  have hbuild := h.whole.isBuilt .value [] [] rfl
  rw [List.append_nil] at hbuild
  rw [Document.ofText, Document.ofTokens, h.tokens, hbuild]
  rfl

end Node

end Ingest.Json
