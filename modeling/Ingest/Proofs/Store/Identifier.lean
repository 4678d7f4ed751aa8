import Ingest.Proofs.Store.Course
/-!
# A record fails at its identifier alone

Two answers decide whether a record is stored: the one to the request for a new identifier, and, if
that says that the record exists, the one to the look-up.  When they bring no identifier nothing
else is sent.  When they bring one the record is stored whatever else fails, and it does not matter
which of the two brought it.
-/

namespace Ingest

/-- The service answered with this status, which was not expected. -/
def RemoteError.HasStatus (status : Nat) (e : RemoteError) : Prop :=
  ∃ operation body, e = .unexpectedStatus operation status body

theorem RemoteError.isConflict_iff {e : RemoteError} : e.isConflict = true ↔ e.HasStatus 409 := by
  unfold HasStatus
  cases e <;> simp [isConflict]

def StoreRequest.key (request : StoreRequest) : RecordKey := ⟨request.providerId, request.recordId⟩

namespace Store

open Repository Dialogue

variable {σ : Type} {peer : Peer Request Reply σ} {s : σ} {request : StoreRequest}

/-! ## The identifier -/

/-- The ways in which the request for an identifier can go, with the answer that they come to. -/
inductive Identifying (peer : Peer Request Reply σ) (key : RecordKey) (s : σ) :
    Outcome Request Reply σ (Except RemoteError CloudId) → Prop where
  | issued {cloudId : CloudId} {t : σ} : peer.reply s (.createCloudId key) = (.ok cloudId, t) →
      Identifying peer key s ⟨.ok cloudId, t, [⟨.createCloudId key, .ok cloudId⟩]⟩
  | refused {e : RemoteError} {t : σ} : peer.reply s (.createCloudId key) = (.error e, t) →
      ¬e.HasStatus 409 →
      Identifying peer key s ⟨.error e, t, [⟨.createCloudId key, .error e⟩]⟩
  | lookedUp {e : RemoteError} {t u : σ} {reply : Except RemoteError CloudId} :
      peer.reply s (.createCloudId key) = (.error e, t) → e.HasStatus 409 →
      peer.reply t (.getCloudId key) = (reply, u) →
      Identifying peer key s ⟨reply, u, [⟨.createCloudId key, .error e⟩, ⟨.getCloudId key, reply⟩]⟩

theorem identifying_run (peer : Peer Request Reply σ) (key : RecordKey) (s : σ) :
    Identifying peer key s ((issueCloudId key).run peer s) := by
  rw [issueCloudId_eq]
  cases hissue : peer.reply s (.createCloudId key) with
  | mk reply t =>
      cases reply with
      | ok cloudId =>
          simp only [run, hissue]
          exact .issued hissue
      | error e =>
          by_cases he : e.isConflict = true
          · cases hlookup : peer.reply t (.getCloudId key) with
            | mk reply u =>
                simp only [run, hissue, he, if_true, hlookup]
                exact .lookedUp hissue (RemoteError.isConflict_iff.1 he) hlookup
          · simp only [run, hissue, he]
            exact .refused hissue (mt RemoteError.isConflict_iff.2 he)

/-- A way that fits the answers of a peer is the one that is taken. -/
theorem Identifying.run_eq {key : RecordKey}
    {o : Outcome Request Reply σ (Except RemoteError CloudId)} (h : Identifying peer key s o) :
    (issueCloudId key).run peer s = o := by
  rw [issueCloudId_eq]
  cases h with
  | issued hissue => simp only [run, hissue]
  | refused hissue he => simp [run, hissue, mt RemoteError.isConflict_iff.1 he]
  | lookedUp hissue he hlookup => simp [run, hissue, RemoteError.isConflict_iff.2 he, hlookup]

/-! ## Behind the identifier -/

theorem run_of_error [Media.Guess] {e : RemoteError} {t : σ} {xs : List Call}
    (h : (issueCloudId request.key).run peer s = ⟨.error e, t, xs⟩) :
    (storeFiles request).run peer s = ⟨.error e, t, xs⟩ := by
  change (issueCloudId request.key >>= _).run peer s = _
  rw [run_bind, h]
  simp

theorem run_of_ok [Media.Guess] {cloudId : CloudId} {t : σ} {xs : List Call}
    (h : (issueCloudId request.key).run peer s = ⟨.ok cloudId, t, xs⟩) :
    (storeFiles request).run peer s =
      let later := (storeUnder request cloudId).run peer t
      ⟨.ok later.value, later.state, xs ++ later.exchanges⟩ := by
  change (issueCloudId request.key >>= _).run peer s = _
  rw [run_bind, h]
  simp [run_bind]

theorem storeUnder_phase [Media.Guess] {cloudId : CloudId} {xs : List Call} {report : StoreReport}
    (h : (storeUnder request cloudId).Trace xs report) : ∀ x ∈ xs, x.phase ≠ .identifying := by
  obtain ⟨as, p, us, cs, rfl, -, hus, hcs, -, -⟩ := trace_storeUnder_iff.1 h
  intro x hx
  rcases List.mem_append.1 hx with hx | hx
  · rw [hus.phase x hx]
    decide
  · rw [hcs.phase x hx]
    decide

theorem value_isError_iff [Media.Guess] (peer : Peer Request Reply σ) (s : σ)
    (request : StoreRequest) :
    (∃ e, ((storeFiles request).run peer s).value = .error e) ↔
      ∃ e, ((issueCloudId request.key).run peer s).value = .error e := by
  cases hissued : (issueCloudId request.key).run peer s with
  | mk answer t xs =>
      cases answer with
      | error e => simp [run_of_error hissued]
      | ok cloudId => simp [run_of_ok hissued]

/-! ## Records -/

/-- How the answers about its identifier decide about a record. -/
structure DecidedByIdentifier [Media.Guess] (peer : Peer Request Reply σ) (s : σ)
    (request : StoreRequest) : Prop where
  /-- The record fails exactly if no identifier is issued, and none is looked up after an answer
  that the record exists.  No other failure makes it fail. -/
  fails_iff : (∃ e, ((storeFiles request).run peer s).value = .error e) ↔
    ∃ e t, peer.reply s (.createCloudId request.key) = (.error e, t) ∧
      (e.HasStatus 409 → ∃ e', (peer.reply t (.getCloudId request.key)).1 = .error e')
  /-- Refused an identifier, the record makes no other call and fails with this error. -/
  refused : ∀ {e t}, peer.reply s (.createCloudId request.key) = (.error e, t) →
    ¬e.HasStatus 409 →
    (storeFiles request).run peer s = ⟨.error e, t, [⟨.createCloudId request.key, .error e⟩]⟩
  /-- If the look-up fails too, the record makes no third call and fails with the second error. -/
  lost : ∀ {e e' t u}, peer.reply s (.createCloudId request.key) = (.error e, t) →
    e.HasStatus 409 → peer.reply t (.getCloudId request.key) = (.error e', u) →
    (storeFiles request).run peer s =
      ⟨.error e', u, [⟨.createCloudId request.key, .error e⟩,
        ⟨.getCloudId request.key, .error e'⟩]⟩
  /-- If the look-up succeeds, all goes on as with a peer that issues the same identifier at once
  and then answers alike. -/
  found : ∀ {e cloudId t u}, peer.reply s (.createCloudId request.key) = (.error e, t) →
    e.HasStatus 409 → peer.reply t (.getCloudId request.key) = (.ok cloudId, u) →
    ∀ direct : Peer Request Reply σ,
      direct.reply s (.createCloudId request.key) = (.ok cloudId, u) →
      (∀ v (x : Call), x.phase ≠ .identifying → direct.reply v x.request = peer.reply v x.request) →
      ∃ report v later,
        (storeFiles request).run peer s =
          ⟨.ok report, v, ⟨.createCloudId request.key, .error e⟩ ::
            ⟨.getCloudId request.key, .ok cloudId⟩ :: later⟩ ∧
        (storeFiles request).run direct s =
          ⟨.ok report, v, ⟨.createCloudId request.key, .ok cloudId⟩ :: later⟩
  /-- An identifier is looked up once at most, and only right after an answer that the record
  exists. -/
  lookedUp_once : ∀ {before after : List Call} {key reply},
    ((storeFiles request).run peer s).exchanges = before ++ ⟨.getCloudId key, reply⟩ :: after →
      key = request.key ∧
        (∃ e, e.HasStatus 409 ∧ before = [⟨.createCloudId request.key, .error e⟩]) ∧
        ∀ y ∈ after, y.phase ≠ .identifying

theorem fails_iff [Media.Guess] (peer : Peer Request Reply σ) (s : σ) (request : StoreRequest) :
    (∃ e, ((storeFiles request).run peer s).value = .error e) ↔
      ∃ e t, peer.reply s (.createCloudId request.key) = (.error e, t) ∧
        (e.HasStatus 409 → ∃ e', (peer.reply t (.getCloudId request.key)).1 = .error e') := by
  rw [value_isError_iff]
  have hrun := identifying_run peer request.key s
  generalize (issueCloudId request.key).run peer s = o at hrun
  cases hrun with
  | issued hissue => simp [hissue]
  | refused hissue he => simp [hissue, he]
  | lookedUp hissue he hlookup =>
      constructor
      · rintro ⟨e', rfl⟩
        exact ⟨_, _, hissue, fun _ => ⟨e', congrArg Prod.fst hlookup⟩⟩
      · rintro ⟨_, _, hissue', hlost⟩
        cases hissue.symm.trans hissue'
        obtain ⟨e', he'⟩ := hlost he
        exact ⟨e', (congrArg Prod.fst hlookup).symm.trans he'⟩

/-- The calls under an identifier are answered alike by a peer that differs only where identifiers
are asked for. -/
theorem run_storeUnder_congr [Media.Guess] {direct : Peer Request Reply σ} (cloudId : CloudId)
    (hdirect : ∀ v (x : Call), x.phase ≠ .identifying →
      direct.reply v x.request = peer.reply v x.request) (t : σ) :
    (storeUnder request cloudId).run direct t = (storeUnder request cloudId).run peer t := by
  apply run_congr
  intro x hx v
  exact hdirect v x (storeUnder_phase (trace_run peer _ t) x hx)

theorem run_found [Media.Guess] {e : RemoteError} {cloudId : CloudId} {t u : σ}
    (hissue : peer.reply s (.createCloudId request.key) = (.error e, t)) (he : e.HasStatus 409)
    (hlookup : peer.reply t (.getCloudId request.key) = (.ok cloudId, u))
    {direct : Peer Request Reply σ}
    (hissued : direct.reply s (.createCloudId request.key) = (.ok cloudId, u))
    (hdirect : ∀ v (x : Call), x.phase ≠ .identifying →
      direct.reply v x.request = peer.reply v x.request) :
    ∃ report v later,
      (storeFiles request).run peer s =
        ⟨.ok report, v, ⟨.createCloudId request.key, .error e⟩ ::
          ⟨.getCloudId request.key, .ok cloudId⟩ :: later⟩ ∧
      (storeFiles request).run direct s =
        ⟨.ok report, v, ⟨.createCloudId request.key, .ok cloudId⟩ :: later⟩ := by
  have hfound := run_of_ok (Identifying.lookedUp hissue he hlookup).run_eq
  have hdirectly := run_of_ok (Identifying.issued hissued).run_eq
  rw [run_storeUnder_congr cloudId hdirect] at hdirectly
  exact ⟨_, _, _, hfound, hdirectly⟩

/-- Whatever way the identifier is asked for, a look-up in its calls is the second one and follows
an answer that the record exists. -/
theorem Identifying.eq_of_lookup {key key' : RecordKey}
    {o : Outcome Request Reply σ (Except RemoteError CloudId)} {before after later : List Call}
    {reply : Reply (.getCloudId key')} (h : Identifying peer key s o)
    (hlater : ∀ x ∈ later, x.phase ≠ .identifying)
    (hlog : o.exchanges ++ later = before ++ ⟨.getCloudId key', reply⟩ :: after) :
    key' = key ∧ (∃ e, e.HasStatus 409 ∧ before = [⟨.createCloudId key, .error e⟩]) ∧
      after = later := by
  have hnot : ∀ {before : List Call}, later ≠ before ++ ⟨.getCloudId key', reply⟩ :: after := by
    rintro before rfl
    exact hlater _ (List.mem_append_right _ List.mem_cons_self) rfl
  cases h with
  | issued | refused =>
      obtain _ | ⟨x, before⟩ := before
      · simp at hlog
      · exact absurd (List.cons.inj hlog).2 hnot
  | lookedUp _ he =>
      obtain _ | ⟨x, _ | ⟨y, before⟩⟩ := before
      · simp at hlog
      · obtain ⟨rfl, hrest⟩ := List.cons.inj hlog
        obtain ⟨hcall, rfl⟩ := List.cons.inj hrest
        cases hcall
        exact ⟨rfl, ⟨_, he, rfl⟩, rfl⟩
      · exact absurd (List.cons.inj (List.cons.inj hlog).2).2 hnot

theorem lookedUp_once [Media.Guess] {before after : List Call} {key : RecordKey}
    {reply : Reply (.getCloudId key)}
    (h : ((storeFiles request).run peer s).exchanges =
      before ++ ⟨.getCloudId key, reply⟩ :: after) :
    key = request.key ∧ (∃ e, e.HasStatus 409 ∧ before = [⟨.createCloudId request.key, .error e⟩]) ∧
      ∀ y ∈ after, y.phase ≠ .identifying := by
  have hrun := identifying_run peer request.key s
  cases hissued : (issueCloudId request.key).run peer s with
  | mk answer t xs =>
      rw [hissued] at hrun
      cases answer with
      | error e =>
          rw [run_of_error hissued] at h
          have hnone : ∀ x ∈ ([] : List Call), x.phase ≠ .identifying := by simp
          obtain ⟨hkey, hbefore, rfl⟩ := hrun.eq_of_lookup hnone (by simpa using h)
          exact ⟨hkey, hbefore, by simp⟩
      | ok cloudId =>
          rw [run_of_ok hissued] at h
          have hlater := storeUnder_phase (trace_run peer (storeUnder request cloudId) t)
          obtain ⟨hkey, hbefore, rfl⟩ := hrun.eq_of_lookup hlater h
          exact ⟨hkey, hbefore, hlater⟩

/-- Whatever the repository answers, a record fails at its identifier or not at all. -/
theorem storeFiles_decided_by_identifier [Media.Guess] {σ : Type} (peer : Peer Request Reply σ)
    (s : σ) (request : StoreRequest) : DecidedByIdentifier peer s request where
  fails_iff := fails_iff peer s request
  refused hissue he := run_of_error (Identifying.refused hissue he).run_eq
  lost hissue he hlookup := run_of_error (Identifying.lookedUp hissue he hlookup).run_eq
  found hissue he hlookup _ hissued hdirect := run_found hissue he hlookup hissued hdirect
  lookedUp_once := lookedUp_once

/-- A repository that issues the identifier which the sample only gives when it is asked again. -/
def issuingPeer : Peer Request Reply Unit where
  reply _
    | .createCloudId key => (.ok ⟨"C1", key.providerId, "rec"⟩, ())
    | q => (sampleAnswer q, ())

/-- The sample record exists already, and is stored as if it did not. -/
theorem storeFiles_decided_by_identifier_sample :
    ∃ report v later,
      (storeFiles sampleRequest).run samplePeer () =
        ⟨.ok report, v, ⟨.createCloudId sampleRequest.key,
            .error (.unexpectedStatus "create cloud id" 409 "")⟩ ::
          ⟨.getCloudId sampleRequest.key, .ok sampleReport.cloudId⟩ :: later⟩ ∧
      (storeFiles sampleRequest).run issuingPeer () =
        ⟨.ok report, v, ⟨.createCloudId sampleRequest.key, .ok sampleReport.cloudId⟩ :: later⟩ := by
  refine (storeFiles_decided_by_identifier samplePeer () sampleRequest).found rfl ⟨_, _, rfl⟩ rfl
    issuingPeer rfl ?_
  rintro v ⟨q, reply⟩ hphase
  cases q
  case createCloudId => exact absurd rfl hphase
  all_goals rfl

end Store

end Ingest
