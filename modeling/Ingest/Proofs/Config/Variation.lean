import Ingest.Proofs.Config.Acceptance
import Ingest.Proofs.Config.Keys
import Ingest.Proofs.Json.Spacing
import Mathlib.Logic.Relation
/-!
# What a configuration does not depend on

An accepted text may be written otherwise: with spaces between its tokens, with the members of its
records in another order, and with members that no record has a key for.  A record with two members
under one of its keys is never accepted.
-/

namespace Ingest

open Json

/-! ## Variations of a tree -/

/-- The members of one record stand in another order, or there is one more that is not known. -/
inductive Variation (schema : Schema) : Node → Node → Prop where
  | reorder {keys : Keys} {tree : List (Key × Node) → Node} {members members' : List (Key × Node)} :
      schema.Place keys tree → members.Perm members' →
      Variation schema (tree members) (tree members')
  | extend {keys : Keys} {tree : List (Key × Node) → Node} (before after : List (Key × Node))
      {key : String} {node : Node} :
      schema.Place keys tree → key ∉ keys.names → node.Whole →
      Variation schema (tree (before ++ after)) (tree (before ++ (.ok key, node) :: after))

namespace Json.Reader

variable {α : Type} {r : Reader α} {schema : Schema}

theorem Follows.variation (h : r.Follows schema) {n n' : Node} (hstep : Variation schema n n')
    {depth : Nat} {a : α} (hread : r depth n = .ok a) : r depth n' = .ok a := by
  cases hstep with
  | reorder hplace hperm => exact (h.hinges hplace hread).perm hperm
  | extend before after hplace hkey hnode => exact (h.hinges hplace hread).insert hkey hnode

theorem Follows.variations (h : r.Follows schema) {n n' : Node}
    (hsteps : Relation.ReflTransGen (Variation schema) n n') {depth : Nat} {a : α}
    (hread : r depth n = .ok a) : r depth n' = .ok a := by
  induction hsteps with
  | refl => exact hread
  | tail _ hstep ih => exact h.variation hstep ih

end Json.Reader

/-! ## Variations of a text -/

/-- Every accepted text spells a tree.  What it is accepted as remains with spaces between its
tokens and after any variations of the tree, and no record of the tree has a key twice. -/
structure DependsOnKnown {γ : Type} (schema : Schema) (accept : String → Option γ) : Prop where
  spelled : ∀ {s : String} {c : γ}, accept s = some c → ∃ n, Node.Spells s n
  spaced : ∀ (before spaces after : String) {c : γ}, accept (before ++ after) = some c →
    (∀ l ∈ lexemes (before ++ after), l.IsBeside before.length) →
    (∀ space ∈ spaces.toList, isSpace space = true) →
    accept (before ++ spaces ++ after) = some c
  varied : ∀ {s s' : String} {n n' : Node} {c : γ}, accept s = some c → Node.Spells s n →
    Relation.ReflTransGen (Variation schema) n n' → Node.Spells s' n' → accept s' = some c
  unrepeated : ∀ {keys : Keys} {tree : List (Key × Node) → Node}, schema.Place keys tree →
    ∀ (name : String) (members : List (Key × Node)) {s : String}, name ∈ keys.names →
      2 ≤ (members.filter (hasKey name)).length → Node.Spells s (tree members) → accept s = none

/-- What is read by a reader that follows a schema, and checked afterwards, depends on no more. -/
theorem Json.Reader.Conforms.dependsOnKnown {α : Type} {r : Reader α} {schema : Schema}
    (h : r.Conforms schema) (check : α → Except ConfigProblem Unit) {accept : String → Option α}
    (haccept : ∀ {s a}, accept s = some a ↔ r.ofText s = .ok a ∧ check a = .ok ()) :
    DependsOnKnown schema accept where
  spelled haccepted := h.toThorough.spells (haccept.1 haccepted).1
  spaced := by
    intro before spaces after c haccepted hbeside hspaces
    obtain ⟨hread, hcheck⟩ := haccept.1 haccepted
    obtain ⟨n, hn⟩ := h.toThorough.spells hread
    have htokens := tokens_insert (hn.tokens ▸ hn.whole.isLast_tokens) hbeside hspaces
    have hspaced : Node.Spells (before ++ spaces ++ after) n :=
      ⟨htokens.trans hn.tokens, hn.whole⟩
    rw [Reader.ofText_ok_iff_of_spells hn] at hread
    exact haccept.2 ⟨(Reader.ofText_ok_iff_of_spells hspaced).2 hread, hcheck⟩
  varied := by
    intro s s' n n' c haccepted hs hsteps hs'
    obtain ⟨hread, hcheck⟩ := haccept.1 haccepted
    rw [Reader.ofText_ok_iff_of_spells hs] at hread
    refine haccept.2 ⟨(Reader.ofText_ok_iff_of_spells hs').2 ?_, hcheck⟩
    exact h.toFollows.variations hsteps hread
  unrepeated := by
    intro keys tree hplace name members s hname htwice hs
    refine Option.eq_none_iff_forall_ne_some.2 fun a ha => ?_
    have hread := (Reader.ofText_ok_iff_of_spells hs).1 (haccept.1 ha).1
    have honce := (h.hinges hplace hread).once hname
    omega

/-! ## Configurations -/

/-- A configuration depends on the members with known keys only, and each may be given once. -/
theorem configs_dependOnKnown :
    DependsOnKnown (ImportConfig.schema .null) (fun s => (ImportConfig.ofText s).toOption) ∧
    DependsOnKnown DeployConfig.schema (fun s => (DeployConfig.ofText s).toOption) :=
  ⟨ImportConfig.conforms_reader.dependsOnKnown ImportConfig.validate
      (toOption_eq_some_iff.trans ImportConfig.ofText_ok_iff),
    DeployConfig.conforms_reader.dependsOnKnown DeployConfig.validate
      (toOption_eq_some_iff.trans DeployConfig.ofText_ok_iff)⟩

theorem configs_dependOnKnown_sample :
    (DeployConfig.ofText "\x7b\"x\":[[]],\"proxy\":null,\"dps\":\"d\"\x7d").toOption =
      some ⟨none, none, none, none, none, none, none, none, [], none, [], "d", none, none⟩ ∧
    (DeployConfig.ofText ("\x7b\"topics\":" ++ " \n" ++ "[\"t\"]\x7d")).toOption =
      some ⟨none, none, none, none, none, none, none, none, ["t"], none, [], none, none, none⟩ ∧
    (DeployConfig.ofText "\x7b\"task\":\x7b\"topic\":null,\"topic\":\"t\"\x7d\x7d").toOption =
      none := by
  have hdeploy := configs_dependOnKnown.2
  refine ⟨?_, ?_, ?_⟩
  · have hswap : Variation DeployConfig.schema
        (.object [(.ok "dps", .text (.ok "d")), (.ok "proxy", .null)] none)
        (.object [(.ok "proxy", .null), (.ok "dps", .text (.ok "d"))] none) :=
      .reorder (.here _) (.swap _ _ _)
    have hextend : Variation DeployConfig.schema
        (.object [(.ok "proxy", .null), (.ok "dps", .text (.ok "d"))] none)
        (.object [(.ok "x", .list [.list [] none] none), (.ok "proxy", .null),
          (.ok "dps", .text (.ok "d"))] none) :=
      .extend [] _ (.here _) (by decide) ((Node.skip_ok_iff _).1 rfl)
    have haccepted : (DeployConfig.ofText "\x7b\"dps\":\"d\",\"proxy\":null\x7d").toOption =
        some ⟨none, none, none, none, none, none, none, none, [], none, [], "d", none, none⟩ := rfl
    exact hdeploy.varied haccepted ⟨rfl, (Node.skip_ok_iff _).1 rfl⟩
      ((Relation.ReflTransGen.single hswap).tail hextend) ⟨rfl, (Node.skip_ok_iff _).1 rfl⟩
  · exact hdeploy.spaced "\x7b\"topics\":" " \n" "[\"t\"]\x7d" rfl (by decide) (by simp [isSpace])
  · have hplace : DeployConfig.schema.Place TaskSection.keys fun members =>
        .object [(.ok "task", .object members none)] none :=
      .member [] [] rfl (.here _)
    exact hdeploy.unrepeated hplace "topic" [(.ok "topic", .null), (.ok "topic", .text (.ok "t"))]
      (by decide) (by decide) ⟨rfl, (Node.skip_ok_iff _).1 rfl⟩

end Ingest
