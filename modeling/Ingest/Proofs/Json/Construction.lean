import Ingest.Proofs.Json.Spelling
/-!
# Trees are built from their own tokens

What has been read of a text while a tree is under construction is what the open lists and objects
hold so far.  Each step keeps this, so a tree that comes out whole is spelled by all that was read.
A step that finds a defect leaves it in the tree, and so does a text that ends too early.
-/

namespace Ingest.Json

namespace Node

/-! ## Defects stay -/

theorem not_whole_broken (stop : Break) : ¬(Node.broken stop).Whole := by
  rintro ⟨⟩

theorem not_whole_node (stop : Break) (frame : Frame) : ¬(frame.node (some stop)).Whole := by
  cases frame <;> simp [Frame.node, whole_list_iff, whole_object_iff]

theorem not_whole_enclose (stop : Break) {node : Node} (h : ¬node.Whole) (frames : List Frame) :
    ¬(enclose stop node frames).Whole := by
  induction frames generalizing node with
  | nil => exact h
  | cons frame outer ih => exact ih (not_whole_node stop _)

theorem not_whole_breakValue (frames : List Frame) (stop : Break) :
    ¬(breakValue frames stop).Whole := not_whole_enclose stop (not_whole_broken stop) frames

theorem not_whole_breakInside (frames : List Frame) (stop : Break) :
    ¬(breakInside frames stop).Whole := by
  cases frames with
  | nil => exact not_whole_broken stop
  | cons frame outer => exact not_whole_enclose stop (not_whole_node stop frame) outer

theorem not_whole_finish (p : Partial) : ¬p.finish.Whole := by
  unfold Partial.finish
  cases p.place <;> first | exact not_whole_breakValue _ _ | exact not_whole_breakInside _ _

/-! ## What has been read -/

def itemsBefore (items : List Node) : List Token := items.flatMap (·.tokens ++ [.comma])

def membersBefore (members : List (Key × Node)) : List Token :=
  members.flatMap fun m => .text m.1 :: .colon :: m.2.tokens ++ [.comma]

theorem itemTokens_concat (items : List Node) (item : Node) :
    itemTokens (items ++ [item]) = itemsBefore items ++ item.tokens := by
  induction items with
  | nil => rfl
  | cons first items ih =>
    have hcons : itemTokens (first :: (items ++ [item])) =
        first.tokens ++ .comma :: itemTokens (items ++ [item]) := by
      cases items <;> rfl
    rw [List.cons_append, hcons, ih]
    simp [itemsBefore]

theorem memberTokens_concat (members : List (Key × Node)) (m : Key × Node) :
    memberTokens (members ++ [m]) =
      membersBefore members ++ .text m.1 :: .colon :: m.2.tokens := by
  induction members with
  | nil => rfl
  | cons first members ih =>
    have hcons : memberTokens (first :: (members ++ [m])) =
        .text first.1 :: .colon :: first.2.tokens ++ .comma :: memberTokens (members ++ [m]) := by
      cases members <;> rfl
    rw [List.cons_append, hcons, ih]
    simp [membersBefore]

/-- The tokens of an open list or object up to the value or key that it waits for. -/
def Frame.tokens : Frame → List Token
  | .list items => .openList :: itemsBefore items.reverse
  | .object members => .openObject :: membersBefore members.reverse
  | .member members key => .openObject :: membersBefore members.reverse ++ [.text key, .colon]

def openTokens : List Frame → List Token
  | [] => []
  | frame :: outer => openTokens outer ++ frame.tokens

def Frame.takesValue : Frame → Bool
  | .object _ => false
  | _ => true

/-- What has been read, with a tree under construction. -/
inductive Reads : List Token → Partial → Prop where
  | value {frames : List Frame} : (∀ frame ∈ frames, frame.takesValue = true) →
      Reads (openTokens frames) ⟨.value, frames⟩
  | firstItem {outer : List Frame} : (∀ frame ∈ outer, frame.takesValue = true) →
      Reads (openTokens (.list [] :: outer)) ⟨.firstItem, .list [] :: outer⟩
  | nextItem {items : List Node} {outer : List Frame} :
      (∀ frame ∈ outer, frame.takesValue = true) →
      Reads (openTokens (.list items :: outer)) ⟨.nextItem, .list items :: outer⟩
  | afterItem {item : Node} {items : List Node} {outer : List Frame} :
      (∀ frame ∈ outer, frame.takesValue = true) →
      Reads (openTokens (.list items :: outer) ++ item.tokens)
        ⟨.afterItem, .list (item :: items) :: outer⟩
  | firstKey {outer : List Frame} : (∀ frame ∈ outer, frame.takesValue = true) →
      Reads (openTokens (.object [] :: outer)) ⟨.firstKey, .object [] :: outer⟩
  | nextKey {members : List (Key × Node)} {outer : List Frame} :
      (∀ frame ∈ outer, frame.takesValue = true) →
      Reads (openTokens (.object members :: outer)) ⟨.nextKey, .object members :: outer⟩
  | colon {members : List (Key × Node)} {key : Key} {outer : List Frame} :
      (∀ frame ∈ outer, frame.takesValue = true) →
      Reads (openTokens (.object members :: outer) ++ [.text key])
        ⟨.colon, .member members key :: outer⟩
  | afterMember {m : Key × Node} {members : List (Key × Node)} {outer : List Frame} :
      (∀ frame ∈ outer, frame.takesValue = true) →
      Reads (openTokens (.member members m.1 :: outer) ++ m.2.tokens)
        ⟨.afterMember, .object (m :: members) :: outer⟩

/-- What a step makes of the tokens read so far. -/
def Step.Reads (ts : List Token) : Step → Prop
  | .whole node => node.tokens = ts
  | .more p => Node.Reads ts p
  | .defect node => ¬node.Whole

/-! ## Steps -/

variable {frames outer : List Frame}

theorem reads_supply (h : ∀ frame ∈ frames, frame.takesValue = true) (node : Node) :
    (supply node frames).Reads (openTokens frames ++ node.tokens) := by
  cases frames with
  | nil => exact rfl
  | cons frame outer =>
    rw [List.forall_mem_cons] at h
    cases frame with
    | list items => exact .afterItem h.2
    | member members key => exact @Reads.afterMember (key, node) members outer h.2
    | object members => cases h.1

theorem reads_startValue (h : ∀ frame ∈ frames, frame.takesValue = true) (t : Token) :
    (startValue frames t).Reads (openTokens frames ++ [t]) := by
  cases t
  case openList => exact .firstItem h
  case openObject => exact .firstKey h
  case null => exact reads_supply h .null
  case bool b => exact reads_supply h (.bool b)
  case number n => exact reads_supply h (.number n)
  case text content => exact reads_supply h (.text content)
  all_goals exact not_whole_breakValue frames _

theorem reads_startKey {members : List (Key × Node)}
    (h : ∀ frame ∈ outer, frame.takesValue = true) (t : Token) :
    (startKey (.object members :: outer) t).Reads
      (openTokens (.object members :: outer) ++ [t]) := by
  cases t
  case text key => exact .colon h
  all_goals exact not_whole_breakInside _ _

theorem reads_closeList (h : ∀ frame ∈ outer, frame.takesValue = true) {items : List Node}
    {ts : List Token} (hts : ts = .openList :: itemTokens items.reverse) :
    (close (.list items :: outer)).Reads (openTokens outer ++ ts ++ [.closeList]) := by
  have hsupply := reads_supply h (.list items.reverse none)
  rwa [tokens, ← hts, ← List.append_assoc] at hsupply

theorem reads_closeObject (h : ∀ frame ∈ outer, frame.takesValue = true)
    {members : List (Key × Node)} {ts : List Token}
    (hts : ts = .openObject :: memberTokens members.reverse) :
    (close (.object members :: outer)).Reads (openTokens outer ++ ts ++ [.closeObject]) := by
  have hsupply := reads_supply h (.object members.reverse none)
  rwa [tokens, ← hts, ← List.append_assoc] at hsupply

/-! What is open with one more item, key or member, as it is read on from there. -/

theorem openTokens_item (items : List Node) (item : Node) (outer : List Frame) :
    openTokens (.list items :: outer) ++ item.tokens =
      openTokens outer ++ .openList :: itemTokens (item :: items).reverse := by
  rw [List.reverse_cons, itemTokens_concat]
  simp [openTokens, Frame.tokens]

theorem openTokens_nextItem (items : List Node) (item : Node) (outer : List Frame) :
    openTokens (.list items :: outer) ++ item.tokens ++ [.comma] =
      openTokens (.list (item :: items) :: outer) := by
  simp [openTokens, Frame.tokens, itemsBefore]

theorem openTokens_key (members : List (Key × Node)) (key : Key) (outer : List Frame) :
    openTokens (.object members :: outer) ++ [.text key] ++ [.colon] =
      openTokens (.member members key :: outer) := by
  simp [openTokens, Frame.tokens]

theorem openTokens_member (members : List (Key × Node)) (m : Key × Node) (outer : List Frame) :
    openTokens (.member members m.1 :: outer) ++ m.2.tokens =
      openTokens outer ++ .openObject :: memberTokens (m :: members).reverse := by
  rw [List.reverse_cons, memberTokens_concat]
  simp [openTokens, Frame.tokens]

theorem openTokens_nextMember (members : List (Key × Node)) (m : Key × Node) (outer : List Frame) :
    openTokens (.member members m.1 :: outer) ++ m.2.tokens ++ [.comma] =
      openTokens (.object (m :: members) :: outer) := by
  simp [openTokens, Frame.tokens, membersBefore]

/-- One more token is read, or there is a defect. -/
theorem reads_step {p : Partial} {ts : List Token} (h : Reads ts p) (t : Token) :
    (step p t).Reads (ts ++ [t]) := by
  cases h with
  | value h => cases t <;> exact reads_startValue h _
  | firstItem h =>
    cases t
    case closeList => exact reads_closeList h rfl
    all_goals exact reads_startValue (List.forall_mem_cons.2 ⟨rfl, h⟩) _
  | nextItem h =>
    cases t
    case closeList => exact not_whole_breakInside _ _
    all_goals exact reads_startValue (List.forall_mem_cons.2 ⟨rfl, h⟩) _
  | @afterItem item items outer h =>
    cases t
    case comma =>
      rw [openTokens_nextItem]
      exact .nextItem h
    case closeList =>
      rw [openTokens_item]
      exact reads_closeList h rfl
    all_goals exact not_whole_breakInside _ _
  | firstKey h =>
    cases t
    case closeObject => exact reads_closeObject h rfl
    all_goals exact reads_startKey h _
  | nextKey h =>
    cases t
    case closeObject => exact not_whole_breakInside _ _
    all_goals exact reads_startKey h _
  | @colon members key outer h =>
    cases t
    case colon =>
      rw [openTokens_key]
      exact .value (List.forall_mem_cons.2 ⟨rfl, h⟩)
    all_goals exact not_whole_breakValue _ _
  | @afterMember m members outer h =>
    cases t
    case comma =>
      rw [openTokens_nextMember]
      exact .nextKey h
    case closeObject =>
      rw [openTokens_member]
      exact reads_closeObject h rfl
    all_goals exact not_whole_breakInside _ _

theorem tokens_of_build {p : Partial} {read ts : List Token} (h : Reads read p) {n : Node}
    (hbuild : build p ts = ⟨n, false⟩) (hwhole : n.Whole) : n.tokens = read ++ ts := by
  induction ts generalizing p read with
  | nil =>
    cases hbuild
    exact absurd hwhole (not_whole_finish p)
  | cons t ts ih =>
    have hstep := reads_step h t
    rw [build_cons] at hbuild
    cases hp : step p t with
    | whole node =>
      rw [hp] at hbuild hstep
      simp only [resume, Document.mk.injEq, Bool.not_eq_eq_eq_not, Bool.not_false,
        List.isEmpty_iff] at hbuild
      obtain ⟨rfl, rfl⟩ := hbuild
      exact hstep
    | more q =>
      rw [hp] at hbuild hstep
      rw [ih hstep hbuild, List.append_assoc, List.singleton_append]
    | defect node =>
      rw [hp] at hbuild hstep
      cases hbuild
      exact absurd hwhole hstep

end Node

/-- A text is read as a tree without defects only if it spells the tree. -/
theorem Node.spells_iff {s : String} {n : Node} :
    Spells s n ↔ Document.ofText s = ⟨n, false⟩ ∧ n.Whole := by
  constructor
  · intro h
    exact ⟨h.document, h.whole⟩
  · rintro ⟨hdocument, hwhole⟩
    exact ⟨(tokens_of_build (.value (by simp)) hdocument hwhole).symm, hwhole⟩

end Ingest.Json
