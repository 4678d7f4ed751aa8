import Ingest.Proofs.Dialogue.Trace
/-!
# Dialogues in lockstep

Two dialogues go in lockstep when they make the same requests as long as the replies they get are
alike, and end with values that are alike.  Which replies and which values count as alike is left
open.  What does not flow into a request is then what may differ between alike replies, and two
traces of dialogues in lockstep make the same requests (`Lockstep.trace`).
-/

namespace Ingest.Dialogue

variable {Q : Type} {R : Q → Type} {α α' β β' : Type}

/-- The dialogues make the same requests on alike replies, and end with related values. -/
inductive Lockstep (Alike : (q : Q) → R q → R q → Prop) (Related : α → α' → Prop) :
    Dialogue Q R α → Dialogue Q R α' → Prop where
  | done {a : α} {a' : α'} : Related a a' → Lockstep Alike Related (.done a) (.done a')
  | ask {q : Q} {next : R q → Dialogue Q R α} {next' : R q → Dialogue Q R α'} :
      (∀ r r', Alike q r r' → Lockstep Alike Related (next r) (next' r')) →
      Lockstep Alike Related (.ask q next) (.ask q next')

namespace Lockstep

variable {Alike : (q : Q) → R q → R q → Prop} {Related : α → α' → Prop}
  {RelatedThen : β → β' → Prop} {d : Dialogue Q R α} {d' : Dialogue Q R α'}

theorem bind {f : α → Dialogue Q R β} {f' : α' → Dialogue Q R β'}
    (h : Lockstep Alike Related d d')
    (hf : ∀ a a', Related a a' → Lockstep Alike RelatedThen (f a) (f' a')) :
    Lockstep Alike RelatedThen (d >>= f) (d' >>= f') := by
  induction h with
  | done ha => exact hf _ _ ha
  | ask _ ih => exact .ask fun r r' hr => ih r r' hr

/-- Traces of dialogues in lockstep make the same requests and end with related values.  The
condition `Fit` on the two lists of exchanges says that they bring alike replies for as long as
their requests are the same. -/
theorem trace {Fit : List (Exchange Q R) → List (Exchange Q R) → Prop}
    (hfit : ∀ {q r r' xs xs'}, Fit (⟨q, r⟩ :: xs) (⟨q, r'⟩ :: xs') → Alike q r r' ∧ Fit xs xs')
    (h : Lockstep Alike Related d d') {xs xs' : List (Exchange Q R)} {a : α} {a' : α'}
    (hx : d.Trace xs a) (hx' : d'.Trace xs' a') (hxs : Fit xs xs') :
    xs.map (·.request) = xs'.map (·.request) ∧ Related a a' := by
  induction h generalizing xs xs' with
  | done ha =>
      obtain ⟨rfl, rfl⟩ := trace_done_iff.1 hx
      obtain ⟨rfl, rfl⟩ := trace_done_iff.1 hx'
      exact ⟨rfl, ha⟩
  | ask _ ih =>
      obtain ⟨r, ys, rfl, hy⟩ := trace_ask_iff.1 hx
      obtain ⟨r', ys', rfl, hy'⟩ := trace_ask_iff.1 hx'
      obtain ⟨hr, hys⟩ := hfit hxs
      obtain ⟨hrequests, hvalues⟩ := ih r r' hr hy hy' hys
      exact ⟨congrArg (_ :: ·) hrequests, hvalues⟩

end Lockstep

end Ingest.Dialogue
