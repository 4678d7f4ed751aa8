import Ingest.Proofs.Dialogue.Trace
/-!
# What a dialogue asks, whatever the replies

A dialogue keeps to a rule when every request that it can come to make obeys the rule, and every
value that it can end with has a property.  Both are proved along the dialogue, with no peer in
sight, and then hold of each of its runs.
-/

namespace Ingest.Dialogue

variable {Q : Type} {R : Q → Type} {α β σ : Type} {rule : Q → Prop}

/-- Requests obey the rule and the value has the property, whatever is replied. -/
inductive KeepsTo (rule : Q → Prop) (result : α → Prop) : Dialogue Q R α → Prop where
  | done {a : α} : result a → KeepsTo rule result (.done a)
  | ask {q : Q} {next : R q → Dialogue Q R α} :
      rule q → (∀ r, KeepsTo rule result (next r)) → KeepsTo rule result (.ask q next)

namespace KeepsTo

variable {result : α → Prop} {d : Dialogue Q R α}

theorem bind {last : β → Prop} {f : α → Dialogue Q R β} (h : KeepsTo rule result d)
    (hf : ∀ a, result a → KeepsTo rule last (f a)) : KeepsTo rule last (d >>= f) := by
  induction h with
  | done ha => exact hf _ ha
  | ask hq _ ih => exact .ask hq ih

theorem trace {xs : List (Exchange Q R)} {a : α} (h : KeepsTo rule result d) (hx : d.Trace xs a) :
    (∀ x ∈ xs, rule x.request) ∧ result a := by
  induction h generalizing xs with
  | done ha =>
      obtain ⟨rfl, rfl⟩ := trace_done_iff.1 hx
      exact ⟨by simp, ha⟩
  | ask hq _ ih =>
      obtain ⟨r, ys, rfl, hnext⟩ := trace_ask_iff.1 hx
      obtain ⟨hrest, ha⟩ := ih r hnext
      exact ⟨List.forall_mem_cons.2 ⟨hq, hrest⟩, ha⟩

theorem run (h : KeepsTo rule result d) (peer : Peer Q R σ) (s : σ) :
    (∀ q ∈ (d.run peer s).requests, rule q) ∧ result (d.run peer s).value := by
  obtain ⟨hrequests, hvalue⟩ := h.trace (trace_run peer d s)
  refine ⟨fun q hq => ?_, hvalue⟩
  obtain ⟨x, hx, rfl⟩ := List.mem_map.1 hq
  exact hrequests x hx

end KeepsTo

/-! ## What is asked first -/

/-- The first request of a dialogue, if it makes any; it depends on no reply. -/
def first? : Dialogue Q R α → Option Q
  | .done _ => none
  | .ask q _ => some q

/-- What only looks at a value asks nothing first. -/
theorem first?_bind_done (d : Dialogue Q R α) (f : α → β) :
    (d >>= fun a => .done (f a)).first? = d.first? := by
  cases d <;> rfl

end Ingest.Dialogue
