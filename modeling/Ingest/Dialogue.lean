/-!
# Dialogues

A computation that asks for services is kept as data: either it has a value, or it makes a request
and continues from the reply.  What is asked can then be stated for every way of answering, and the
same computation runs against a pure peer, against another dialogue or against the real world.
-/

namespace Ingest

/-- A computation that makes requests `Q`, continues from replies `R q` and ends with a value. -/
inductive Dialogue (Q : Type) (R : Q → Type) (α : Type) where
  | done (value : α)
  | ask (request : Q) (next : R request → Dialogue Q R α)

/-- A request together with the reply it got. -/
structure Exchange (Q : Type) (R : Q → Type) where
  request : Q
  reply : R request

/-- The answering side: it replies to a request and moves to its next state. -/
structure Peer (Q : Type) (R : Q → Type) (σ : Type) where
  reply : σ → (request : Q) → R request × σ

namespace Dialogue

variable {Q : Type} {R : Q → Type} {α β σ : Type}

/-- The dialogue that makes one request and ends with its reply. -/
def request (q : Q) : Dialogue Q R (R q) := .ask q .done

/-- Continue a dialogue from its value. -/
protected def bind : Dialogue Q R α → (α → Dialogue Q R β) → Dialogue Q R β
  | .done a, f => f a
  | .ask q next, f => .ask q fun r => (next r).bind f

instance : Monad (Dialogue Q R) where
  pure := .done
  bind := Dialogue.bind

/-- Carry out every request of a dialogue in a monad that can answer it. -/
def perform {m : Type → Type} [Monad m] (answer : (q : Q) → m (R q)) : Dialogue Q R α → m α
  | .done a => pure a
  | .ask q next => do
    let r ← answer q
    (next r).perform answer

/-- What a run leaves behind: its value, the peer's last state and the exchanges in order. -/
structure Outcome (Q : Type) (R : Q → Type) (σ α : Type) where
  value : α
  state : σ
  exchanges : List (Exchange Q R)

/-- Run a dialogue against a peer that starts in the given state. -/
def run (peer : Peer Q R σ) : Dialogue Q R α → σ → Outcome Q R σ α
  | .done a, s => ⟨a, s, []⟩
  | .ask q next, s =>
    let answer := peer.reply s q
    let rest := (next answer.1).run peer answer.2
    { rest with exchanges := ⟨q, answer.1⟩ :: rest.exchanges }

/-- The requests of a run, in order. -/
def Outcome.requests (o : Outcome Q R σ α) : List Q := o.exchanges.map (·.request)

/-! ## Laws -/

@[simp] theorem pure_eq_done (a : α) : (pure a : Dialogue Q R α) = .done a := rfl

@[simp] theorem done_bind (a : α) (f : α → Dialogue Q R β) : (Dialogue.done a >>= f) = f a := rfl

@[simp] theorem ask_bind (q : Q) (next : R q → Dialogue Q R α) (f : α → Dialogue Q R β) :
    (Dialogue.ask q next >>= f) = .ask q fun r => next r >>= f := rfl

theorem bind_done (d : Dialogue Q R α) : (d >>= Dialogue.done) = d := by
  induction d with
  | done a => rfl
  | ask q next ih => simp [ih]

theorem bind_assoc {γ : Type} (d : Dialogue Q R α) (f : α → Dialogue Q R β)
    (g : β → Dialogue Q R γ) : (d >>= f >>= g) = d >>= fun a => f a >>= g := by
  induction d with
  | done a => rfl
  | ask q next ih => simp [ih]

instance : LawfulMonad (Dialogue Q R) :=
  LawfulMonad.mk' _ (fun d => bind_done d) (fun _ _ => rfl) fun d f g => bind_assoc d f g

theorem perform_bind {m : Type → Type} [Monad m] [LawfulMonad m] (answer : (q : Q) → m (R q))
    (d : Dialogue Q R α) (f : α → Dialogue Q R β) :
    (d >>= f).perform answer = d.perform answer >>= fun a => (f a).perform answer := by
  induction d with
  | done a => simp [perform]
  | ask q next ih => simp [perform, ih]

/-- A dialogue whose requests are answered by dialogues can be carried out in one go. -/
theorem perform_perform {Q' : Type} {R' : Q' → Type} {m : Type → Type} [Monad m] [LawfulMonad m]
    (answer : (q : Q) → Dialogue Q' R' (R q)) (answer' : (q : Q') → m (R' q))
    (d : Dialogue Q R α) :
    (d.perform answer).perform answer' = d.perform fun q => (answer q).perform answer' := by
  induction d with
  | done a => rfl
  | ask q next ih => simp [perform, perform_bind, ih]

theorem perform_request {m : Type → Type} [Monad m] [LawfulMonad m] (answer : (q : Q) → m (R q))
    (q : Q) : (request q).perform answer = answer q :=
  bind_pure (answer q)

@[simp] theorem perform_self (d : Dialogue Q R α) : d.perform request = d := by
  induction d with
  | done a => rfl
  | ask q next ih => simp [perform, request, ih]

@[simp] theorem run_done (peer : Peer Q R σ) (a : α) (s : σ) :
    (Dialogue.done a : Dialogue Q R α).run peer s = ⟨a, s, []⟩ := rfl

/-- A continued dialogue runs its parts one after the other. -/
theorem run_bind (peer : Peer Q R σ) (d : Dialogue Q R α) (f : α → Dialogue Q R β) (s : σ) :
    (d >>= f).run peer s =
      let first := d.run peer s
      let second := (f first.value).run peer first.state
      ⟨second.value, second.state, first.exchanges ++ second.exchanges⟩ := by
  induction d generalizing s with
  | done a => rfl
  | ask q next ih => simp [run, ih]

end Dialogue

end Ingest
