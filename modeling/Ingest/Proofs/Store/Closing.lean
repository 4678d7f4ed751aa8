import Ingest.Proofs.Dialogue.Trace
import Ingest.Proofs.Store.Log
import Mathlib.Data.List.Forall2
/-!
# Closing the representations of a record

After the uploads each representation is closed on its own: it is asked to become persistent and,
when it is and there is a data set, assigned.  `ClosingCalls` lists the calls this can take; the
traces of the closing loop are the sequences of such blocks, one for each representation.
-/

namespace Ingest

def PersistOutcome.url? : PersistOutcome → Option String
  | .persisted url => url
  | .alreadyPersistent => none

namespace Store

open Repository Dialogue

/-! ## One representation -/

@[simp] def Call.isPersisted : Call → Bool
  | ⟨.persist _, .ok _⟩ => true
  | _ => false

@[simp] def Call.isAssigned : Call → Bool
  | ⟨.assign .., .ok _⟩ => true
  | _ => false

/-- The calls that close a version.  It is assigned only when it is persistent and there is a data
set, at the address of the persistent version or else its own. -/
inductive ClosingCalls (request : StoreRequest) (cloudId : String) (v : Version) :
    List Call → Prop where
  | failed (cause : RemoteError) :
      ClosingCalls request cloudId v [⟨.persist v.url, .error cause⟩]
  | unassigned (outcome : PersistOutcome) : request.dataSetId = none →
      ClosingCalls request cloudId v [⟨.persist v.url, .ok outcome⟩]
  | assigned (outcome : PersistOutcome) {dataSetId : String} (reply : Except RemoteError Unit) :
      request.dataSetId = some dataSetId →
      ClosingCalls request cloudId v
        [⟨.persist v.url, .ok outcome⟩,
          ⟨.assign request.providerId dataSetId
            ⟨cloudId, v.name, versionOfUrl? (outcome.url?.getD v.url)⟩, reply⟩]

def closedBy (r : RepresentationReport) (xs : List Call) : RepresentationReport :=
  { r with
    persisted := r.persisted || xs.any (·.isPersisted)
    assigned := r.assigned || xs.any (·.isAssigned) }

section One

variable {request : StoreRequest} {cloudId : String} {r r' : RepresentationReport}
  {v : Version} {xs : List Call}

theorem closeOne_eq :
    closeOne request cloudId r =
      .ask (.persist r.versionUrl) fun
        | .ok outcome => assign request cloudId outcome.url? { r with persisted := true }
        | .error _ => .done r := by
  unfold closeOne
  refine congrArg (Dialogue.ask _) (funext fun (reply : Except RemoteError PersistOutcome) => ?_)
  obtain cause | outcome := reply
  · rfl
  · cases outcome <;> rfl

theorem trace_closeOne_iff :
    (closeOne request cloudId r).Trace xs r' ↔
      ClosingCalls request cloudId (.ofReport r) xs ∧ r' = closedBy r xs := by
  rw [closeOne_eq, trace_ask_iff]
  constructor
  · rintro ⟨reply, ys, rfl, h⟩
    cases reply with
    | error cause =>
        obtain ⟨rfl, rfl⟩ := trace_done_iff.1 h
        exact ⟨.failed cause, by simp [closedBy]⟩
    | ok outcome =>
        cases hds : request.dataSetId with
        | none =>
            simp only [assign, hds, trace_done_iff] at h
            obtain ⟨rfl, rfl⟩ := h
            exact ⟨.unassigned outcome hds, by simp [closedBy]⟩
        | some dataSetId =>
            simp only [assign, hds, trace_ask_iff] at h
            obtain ⟨reply, zs, rfl, h⟩ := h
            cases reply with
            | error cause =>
                obtain ⟨rfl, rfl⟩ := trace_done_iff.1 h
                exact ⟨.assigned outcome (.error cause) hds, by simp [closedBy]⟩
            | ok _ =>
                obtain ⟨rfl, rfl⟩ := trace_done_iff.1 h
                exact ⟨.assigned outcome (.ok ()) hds, by simp [closedBy]⟩
  · rintro ⟨h, rfl⟩
    cases h with
    | failed cause => exact ⟨.error cause, [], rfl, by simp [closedBy]⟩
    | unassigned outcome hds =>
        exact ⟨.ok outcome, [], rfl, by simp [assign, hds, closedBy]⟩
    | assigned outcome reply hds =>
        refine ⟨.ok outcome, _, rfl, ?_⟩
        simp only [assign, hds, trace_ask_iff]
        refine ⟨reply, [], rfl, ?_⟩
        cases reply <;> simp [closedBy]

end One

/-! ## All representations -/

inductive Closing (request : StoreRequest) (cloudId : String) :
    List RepresentationReport → List Call → List RepresentationReport → Prop where
  | nil : Closing request cloudId [] [] []
  | cons {r : RepresentationReport} {rs rs' : List RepresentationReport} {xs ys : List Call} :
      ClosingCalls request cloudId (.ofReport r) xs → Closing request cloudId rs ys rs' →
      Closing request cloudId (r :: rs) (xs ++ ys) (closedBy r xs :: rs')

section All

variable {request : StoreRequest} {cloudId : String} {rs rs' : List RepresentationReport}
  {xs : List Call}

theorem trace_closeAll_iff :
    (closeAll request cloudId rs).Trace xs rs' ↔ Closing request cloudId rs xs rs' := by
  induction rs generalizing xs rs' with
  | nil =>
      simp only [closeAll, trace_done_iff]
      constructor
      · rintro ⟨rfl, rfl⟩
        exact .nil
      · rintro ⟨⟩
        exact ⟨rfl, rfl⟩
  | cons r rs ih =>
      simp only [closeAll, trace_bind_iff, trace_closeOne_iff, ih, pure_eq_done, trace_done_iff]
      constructor
      · rintro ⟨_, ys, _, rfl, ⟨hr, rfl⟩, rs', zs, _, rfl, hrs, rfl, rfl⟩
        rw [List.append_nil]
        exact .cons hr hrs
      · intro h
        obtain _ | @⟨_, _, rs', ys, zs, hr, hrs⟩ := h
        exact ⟨_, ys, zs, rfl, ⟨hr, rfl⟩, rs', zs, [], by simp, hrs, rfl, rfl⟩

theorem Closing.blocks (h : Closing request cloudId rs xs rs') :
    ∃ blocks, xs = blocks.flatten ∧
      List.Forall₂ (ClosingCalls request cloudId) (rs.map Version.ofReport) blocks := by
  induction h with
  | nil => exact ⟨[], rfl, .nil⟩
  | @cons r rs rs' xs ys hr _ ih =>
      obtain ⟨blocks, rfl, hblocks⟩ := ih
      exact ⟨xs :: blocks, rfl, .cons hr hblocks⟩

/-- Closing changes nothing but what `closedBy` changes. -/
theorem Closing.map_eq {β : Type} {f : RepresentationReport → β}
    (hf : ∀ r xs, f (closedBy r xs) = f r) (h : Closing request cloudId rs xs rs') :
    rs'.map f = rs.map f := by
  induction h with
  | nil => rfl
  | cons _ _ ih => simp [hf, ih]

theorem Closing.phase (h : Closing request cloudId rs xs rs') : ∀ x ∈ xs, x.phase = .closing := by
  induction h with
  | nil => simp
  | cons hr _ ih =>
      rw [List.forall_mem_append]
      refine ⟨?_, ih⟩
      cases hr <;> simp [Call.phase]

theorem Closing.persists_eq (h : Closing request cloudId rs xs rs') :
    persists xs = rs.map (·.versionUrl) := by
  induction h with
  | nil => rfl
  | cons hr _ ih => cases hr <;> simp [ih, Version.ofReport]

end All

end Store

end Ingest
