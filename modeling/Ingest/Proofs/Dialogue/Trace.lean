import Ingest.Dialogue
/-!
# Traces of dialogues

A trace is one way a dialogue can go: the exchanges it makes, in order, and the value it ends with.
Every run against a peer is a trace, so what holds of all traces holds for every peer, whatever it
remembers.  Where the replies follow from the requests alone, a dialogue has one trace only.
-/

namespace Ingest.Dialogue

variable {Q : Type} {R : Q → Type} {α β σ : Type}

/-- The exchanges a dialogue may make and the value it then ends with. -/
inductive Trace : Dialogue Q R α → List (Exchange Q R) → α → Prop where
  | done (a : α) : Trace (.done a) [] a
  | ask {q : Q} {next : R q → Dialogue Q R α} {xs : List (Exchange Q R)} {a : α} (r : R q) :
      Trace (next r) xs a → Trace (.ask q next) (⟨q, r⟩ :: xs) a

def AnsweredBy (answer : (q : Q) → R q) (xs : List (Exchange Q R)) : Prop :=
  ∀ x ∈ xs, x.reply = answer x.request

/-! ## What a trace can be -/

@[simp] theorem trace_done_iff {a b : α} {xs : List (Exchange Q R)} :
    (Dialogue.done a : Dialogue Q R α).Trace xs b ↔ xs = [] ∧ b = a := by
  constructor
  · rintro ⟨⟩
    exact ⟨rfl, rfl⟩
  · rintro ⟨rfl, rfl⟩
    exact .done b

theorem trace_ask_iff {q : Q} {next : R q → Dialogue Q R α} {xs : List (Exchange Q R)} {a : α} :
    (Dialogue.ask q next).Trace xs a ↔ ∃ r ys, xs = ⟨q, r⟩ :: ys ∧ (next r).Trace ys a := by
  constructor
  · intro h
    cases h with
    | ask r h => exact ⟨r, _, rfl, h⟩
  · rintro ⟨r, ys, rfl, h⟩
    exact .ask r h

theorem trace_bind_iff {d : Dialogue Q R α} {f : α → Dialogue Q R β}
    {xs : List (Exchange Q R)} {b : β} :
    (d >>= f).Trace xs b ↔
      ∃ a ys zs, xs = ys ++ zs ∧ d.Trace ys a ∧ (f a).Trace zs b := by
  constructor
  · intro h
    induction d generalizing xs with
    | done a => exact ⟨a, [], xs, rfl, .done a, h⟩
    | ask q next ih =>
        rw [ask_bind, trace_ask_iff] at h
        obtain ⟨r, rest, rfl, hrest⟩ := h
        obtain ⟨a, ys, zs, rfl, hys, hzs⟩ := ih r hrest
        exact ⟨a, ⟨q, r⟩ :: ys, zs, rfl, .ask r hys, hzs⟩
  · rintro ⟨a, ys, zs, rfl, hys, hzs⟩
    induction hys with
    | done a => exact hzs
    | ask r _ ih => exact .ask r (ih hzs)

/-! ## Runs are traces -/

theorem trace_run (peer : Peer Q R σ) (d : Dialogue Q R α) (s : σ) :
    d.Trace (d.run peer s).exchanges (d.run peer s).value := by
  induction d generalizing s with
  | done a => exact .done a
  | ask q next ih => exact .ask (peer.reply s q).1 (ih _ _)

theorem answeredBy_run {peer : Peer Q R σ} {answer : (q : Q) → R q}
    (hpeer : ∀ s q, (peer.reply s q).1 = answer q) (d : Dialogue Q R α) (s : σ) :
    AnsweredBy answer (d.run peer s).exchanges := by
  induction d generalizing s with
  | done a =>
      intro x hx
      simp at hx
  | ask q next ih =>
      intro x hx
      simp only [run, List.mem_cons] at hx
      rcases hx with rfl | hx
      · exact hpeer s q
      · exact ih _ _ x hx

theorem run_congr {peer peer' : Peer Q R σ} {d : Dialogue Q R α} {s : σ}
    (h : ∀ x ∈ (d.run peer s).exchanges, ∀ t, peer'.reply t x.request = peer.reply t x.request) :
    d.run peer' s = d.run peer s := by
  induction d generalizing s with
  | done a => rfl
  | ask q next ih =>
      simp only [run, List.forall_mem_cons] at h
      obtain ⟨hfirst, hrest⟩ := h
      simp only [run, hfirst s, ih _ hrest]

/-! ## Traces with determined answers -/

@[simp] theorem answeredBy_cons {answer : (q : Q) → R q} {x : Exchange Q R}
    {xs : List (Exchange Q R)} :
    AnsweredBy answer (x :: xs) ↔ x.reply = answer x.request ∧ AnsweredBy answer xs := by
  simp [AnsweredBy]

@[simp] theorem answeredBy_append {answer : (q : Q) → R q} {xs ys : List (Exchange Q R)} :
    AnsweredBy answer (xs ++ ys) ↔ AnsweredBy answer xs ∧ AnsweredBy answer ys := by
  simp [AnsweredBy, or_imp, forall_and]

/-- Two traces of a dialogue whose answers are determined are the same. -/
theorem Trace.unique {answer : (q : Q) → R q} {d : Dialogue Q R α}
    {xs ys : List (Exchange Q R)} {a b : α} (hx : d.Trace xs a) (hy : d.Trace ys b)
    (hxs : AnsweredBy answer xs) (hys : AnsweredBy answer ys) : xs = ys ∧ a = b := by
  induction hx generalizing ys b with
  | done a =>
      obtain ⟨rfl, rfl⟩ := trace_done_iff.1 hy
      exact ⟨rfl, rfl⟩
  | @ask q next xs a r _ ih =>
      obtain ⟨r', zs, rfl, hnext⟩ := trace_ask_iff.1 hy
      rw [answeredBy_cons] at hxs hys
      have hr : r = r' := hxs.1.trans hys.1.symm
      subst hr
      obtain ⟨rfl, rfl⟩ := ih hnext hxs.2 hys.2
      exact ⟨rfl, rfl⟩

end Ingest.Dialogue
