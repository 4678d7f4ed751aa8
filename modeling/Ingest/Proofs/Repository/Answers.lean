import Ingest.Proofs.Http.Answering
import Ingest.Proofs.Result
import Ingest.Repository.Client
/-!
# What answers are taken for

Each request to the repository has its statuses of success and what else a good answer must hold.
One message is sent for it, and the answer settles how it ends: with the result that the answer
tells, or with the failure that says what is wrong with the answer.
-/

namespace Ingest.Repository

open Dialogue

namespace Request

/-! ## Good answers -/

def accepted : Request → List Nat
  | .createProvider .. => [200, 201]
  | .createDataSet .. | .createRepresentation .. | .addFile .. => [201]
  | .createCloudId _ | .getCloudId _ => [200]
  | .persist _ => [201, 405]
  | .assign .. => [204]

/-- What a good answer holds beside its status: an identifier or a location, where one is asked
for. -/
def IsAnswered : Request → Http.Answer → Prop
  | .createCloudId _, a | .getCloudId _, a => ∃ id, CloudId.ofText a.body = .ok id
  | .createRepresentation .., a | .addFile .., a => ∃ location, a.location = some location
  | _, _ => True

def versionUrl? : Request → Option String
  | .addFile versionUrl _ | .persist versionUrl => some versionUrl
  | _ => none

def Misses (q : Request) (a : Http.Answer) (e : RemoteError) : Prop :=
  match q with
  | .createCloudId _ | .getCloudId _ =>
    ∃ defect, CloudId.ofText a.body = .error defect ∧ e = .malformedBody q.operation defect
  | .createRepresentation .. | .addFile .. =>
    a.location = none ∧ e = .missingLocation q.operation
  | _ => False

def Tells : (q : Request) → Http.Answer → Result q → Prop
  | .createCloudId _, a, id | .getCloudId _, a, id => CloudId.ofText a.body = .ok id
  | .createRepresentation .., a, location | .addFile .., a, location => a.location = some location
  | .persist _, a, outcome =>
    (outcome = .alreadyPersistent ↔ a.status = 405) ∧
      ∀ location, outcome = .persisted location ↔ a.status = 201 ∧ a.location = location
  | _, _, _ => True

end Request

structure Settled (q : Request) (a : Http.Answer) (reply : Reply q) : Prop where
  ok_iff : (∃ result, reply = .ok result) ↔ a.status ∈ q.accepted ∧ q.IsAnswered a
  tells : ∀ result, reply = .ok result → q.Tells a result
  unexpected : a.status ∉ q.accepted →
    reply = .error (.unexpectedStatus q.operation a.status a.body)
  misses : a.status ∈ q.accepted → ¬q.IsAnswered a → ∃ e, reply = .error e ∧ q.Misses a e
  /-- Only a conflict is taken for one. -/
  conflict_iff : ∀ e, reply = .error e → (e.isConflict = true ↔ a.status = 409)

/-! ## Reading an answer -/

namespace Request

def payload : (q : Request) → Http.Answer → Reply q
  | .createProvider .., _ | .createDataSet .., _ | .assign .., _ => .ok ()
  | .createCloudId _, a => Client.expectCloudId "create cloud id" a
  | .getCloudId _, a => Client.expectCloudId "get cloud id" a
  | .createRepresentation .., a => Client.expectLocation "create representation" a
  | .addFile .., a => Client.expectLocation "add file" a
  | .persist _, a => .ok (Client.persistOutcome a)

def read (q : Request) (a : Http.Answer) : Reply q :=
  (Client.expectStatus q.operation q.accepted a).bind q.payload

theorem read_of_accepted {q : Request} {a : Http.Answer} (h : a.status ∈ q.accepted) :
    q.read a = q.payload a := by
  rw [read, Client.expectStatus, if_pos h]
  rfl

theorem read_of_unexpected {q : Request} {a : Http.Answer} (h : a.status ∉ q.accepted) :
    q.read a = .error (.unexpectedStatus q.operation a.status a.body) := by
  rw [read, Client.expectStatus, if_neg h]
  rfl

theorem conflict_not_accepted (q : Request) : 409 ∉ q.accepted := by
  cases q <;> simp [accepted]

theorem expectCloudId_cases (operation : String) (a : Http.Answer) :
    (∃ id, Client.expectCloudId operation a = .ok id ∧ CloudId.ofText a.body = .ok id) ∨
      ∃ defect, Client.expectCloudId operation a = .error (.malformedBody operation defect) ∧
        CloudId.ofText a.body = .error defect := by
  rw [Client.expectCloudId]
  cases CloudId.ofText a.body with
  | ok id => exact .inl ⟨id, rfl, rfl⟩
  | error defect => exact .inr ⟨defect, rfl, rfl⟩

theorem expectLocation_cases (operation : String) (a : Http.Answer) :
    (∃ location, Client.expectLocation operation a = .ok location ∧ a.location = some location) ∨
      Client.expectLocation operation a = .error (.missingLocation operation) ∧
        a.location = none := by
  rw [Client.expectLocation]
  cases a.location with
  | some location => exact .inl ⟨location, rfl, rfl⟩
  | none => exact .inr ⟨rfl, rfl⟩

theorem tells_persistOutcome {versionUrl : String} {a : Http.Answer}
    (h : a.status ∈ (persist versionUrl).accepted) :
    (persist versionUrl).Tells a (Client.persistOutcome a) := by
  simp only [accepted, List.mem_cons, List.not_mem_nil, or_false] at h
  unfold Client.persistOutcome
  rcases h with h | h
  · rw [h, if_neg (by decide)]
    refine ⟨iff_of_false nofun (by simp [h]), fun location => ?_⟩
    constructor
    · intro heq
      exact ⟨h, PersistOutcome.persisted.inj heq⟩
    · rintro ⟨-, heq⟩
      exact congrArg PersistOutcome.persisted heq
  · rw [h, if_pos rfl]
    exact ⟨iff_of_true rfl h, fun location => iff_of_false nofun (by simp [h])⟩

/-- What is read from a good answer is what it tells, and what cannot be read is missing. -/
theorem payload_cases {q : Request} {a : Http.Answer} (h : a.status ∈ q.accepted) :
    (∃ result, q.payload a = .ok result ∧ q.IsAnswered a ∧ q.Tells a result) ∨
      ∃ e, q.payload a = .error e ∧ ¬q.IsAnswered a ∧ q.Misses a e ∧ e.isConflict = false := by
  have hcloudId : ∀ {id defect}, CloudId.ofText a.body = .error defect →
      CloudId.ofText a.body ≠ .ok id := by
    intro id defect herror hok
    rw [herror] at hok
    cases hok
  have hlocation : ∀ {location}, a.location = none → a.location ≠ some location := by
    intro location hnone hsome
    rw [hnone] at hsome
    cases hsome
  cases q with
  | createProvider | createDataSet | assign => exact .inl ⟨(), rfl, trivial, trivial⟩
  | createCloudId key | getCloudId key =>
    rcases expectCloudId_cases _ a with ⟨id, hread, hbody⟩ | ⟨defect, hread, hbody⟩
    · exact .inl ⟨id, hread, ⟨id, hbody⟩, hbody⟩
    · exact .inr ⟨_, hread, fun ⟨id, hok⟩ => hcloudId hbody hok, ⟨defect, hbody, rfl⟩, rfl⟩
  | createRepresentation | addFile =>
    rcases expectLocation_cases _ a with ⟨location, hread, hgiven⟩ | ⟨hread, hnone⟩
    · exact .inl ⟨location, hread, ⟨location, hgiven⟩, hgiven⟩
    · exact .inr ⟨_, hread, fun ⟨location, hsome⟩ => hlocation hnone hsome, ⟨hnone, rfl⟩, rfl⟩
  | persist versionUrl =>
    exact .inl ⟨Client.persistOutcome a, rfl, trivial, tells_persistOutcome h⟩

theorem settled_read (q : Request) (a : Http.Answer) : Settled q a (q.read a) := by
  by_cases haccepted : a.status ∈ q.accepted
  · have hconflict : a.status ≠ 409 := by
      intro h
      exact q.conflict_not_accepted (h ▸ haccepted)
    rw [read_of_accepted haccepted]
    rcases payload_cases haccepted with ⟨result, hpayload, hanswered, htells⟩ |
      ⟨e, hpayload, hanswered, hmisses, hplain⟩
    · rw [hpayload]
      exact
        { ok_iff := iff_of_true ⟨result, rfl⟩ ⟨haccepted, hanswered⟩
          tells := by
            rintro _ ⟨⟩
            exact htells
          unexpected := fun h => absurd haccepted h
          misses := fun _ h => absurd hanswered h
          conflict_iff := nofun }
    · rw [hpayload]
      exact
        { ok_iff := iff_of_false nofun fun h => hanswered h.2
          tells := nofun
          unexpected := fun h => absurd haccepted h
          misses := fun _ _ => ⟨e, rfl, hmisses⟩
          conflict_iff := by
            rintro _ ⟨⟩
            simp [hplain, hconflict] }
  · rw [read_of_unexpected haccepted]
    exact
      { ok_iff := iff_of_false nofun fun h => haccepted h.1
        tells := nofun
        unexpected := fun _ => rfl
        misses := fun h => absurd h haccepted
        conflict_iff := by
          rintro _ ⟨⟩
          exact decide_eq_true_iff }

end Request

/-! ## Calls -/

namespace Client

def address (c : Client) : Request → Except RemoteError Url
  | .createProvider id _ => .ok (c.providersUrl id)
  | .createDataSet providerId _ => .ok (c.dataSetsUrl providerId)
  | .createCloudId key | .getCloudId key => .ok (c.cloudIdsUrl key)
  | .createRepresentation cloudId name _ => .ok (c.representationUrl cloudId name)
  | .addFile versionUrl _ => below versionUrl "files"
  | .persist versionUrl => below versionUrl "persist"
  | .assign providerId dataSetId _ => .ok (c.assignmentsUrl providerId dataSetId)

def requestAt (upload : Bytes) (url : Url) : Request → Http.Request
  | .createProvider _ data => (Http.Request.of "POST" url).withJson data
  | .createDataSet _ dataSet => (Http.Request.of "POST" url).withForm (dataSetPairs dataSet)
  | .createCloudId _ => (Http.Request.of "POST" url).withHeader "content-type" "application/json"
  | .getCloudId _ => Http.Request.of "GET" url
  | .createRepresentation _ _ providerId =>
    (Http.Request.of "POST" url).withForm [("providerId", providerId)]
  | .addFile _ file => (Http.Request.of "POST" url).withParts (uploadParts file upload)
  | .persist _ => Http.Request.of "POST" url
  | .assign _ _ assignment => (Http.Request.of "POST" url).withForm (assignmentPairs assignment)

def make (c : Client) (upload : Bytes) (q : Request) : WorldDialogue (Reply q) :=
  match c.address q with
  | .ok url => c.call q.operation (requestAt upload url q) q.read
  | .error e => .done (.error e)

theorem url_requestAt (upload : Bytes) (url : Url) (q : Request) :
    (requestAt upload url q).url = (Http.Request.of "POST" url).url := by
  have hget : (Http.Request.of "GET" url).url = (Http.Request.of "POST" url).url := by
    unfold Http.Request.of
    cases url.user? <;> rfl
  cases q with
  | getCloudId key => exact hget
  | _ => rfl

/-- Whatever is sent along, the user that the address names is named first. -/
theorem authorises_requestAt (upload : Bytes) (url : Url) (q : Request) :
    List.Forall₂ Http.IsBasicAuth ((requestAt upload url q).headers.values "authorization")
      (Http.usersOf url) := by
  have hadd : ∀ (r : Http.Request) (value : String),
      (r.withHeader "content-type" value).headers.values "authorization" =
        r.headers.values "authorization" :=
    fun r value => Http.Headers.values_add_of_ne (by decide) _ _
  cases q with
  | getCloudId => exact Http.authorises_of "GET" url
  | persist => exact Http.authorises_of "POST" url
  | _ => exact (hadd (Http.Request.of "POST" url) _).symm ▸ Http.authorises_of "POST" url

theorem answer_addFile (c : Client) (versionUrl : String) (file : FileUpload) :
    c.answer (.addFile versionUrl file) = .ask (.readFile file.path) fun
      | .error cause => .done (.error (.file file.path cause))
      | .ok content => c.make content (.addFile versionUrl file) := by
  rw [answer, addFile]
  refine congrArg (Dialogue.ask _) (funext fun contentRead => ?_)
  cases contentRead with
  | error cause => rfl
  | ok content =>
    dsimp only
    rw [make, address]
    generalize below versionUrl "files" = read
    cases read <;> rfl

theorem answer_eq_make (c : Client) {q : Request}
    (h : ∀ versionUrl file, q ≠ .addFile versionUrl file) : c.answer q = c.make [] q := by
  cases q with
  | addFile versionUrl file => exact absurd rfl (h versionUrl file)
  | persist versionUrl =>
    have hread : (Request.persist versionUrl).read = fun a =>
        (expectStatus "persist representation" [201, 405] a).map persistOutcome := by
      funext a
      change (expectStatus "persist representation" [201, 405] a).bind _ = _
      cases expectStatus "persist representation" [201, 405] a <;> rfl
    rw [answer, make, address, hread]
    generalize below versionUrl "persist" = read
    cases read <;> rfl
  | _ => rfl

/-! ## Traces -/

variable {c : Client} {q : Request} {xs : List (Exchange World.Request World.Reply)}

theorem trace_call {α : Type} {operation : String} {r : Http.Request}
    {read : Http.Answer → Except RemoteError α} {reply : Except RemoteError α}
    (h : (c.call operation r read).Trace xs reply) :
    ∃ outcome, (c.http.send (r.withAuth c.login c.password)).Trace xs outcome ∧
      reply = (outcome.mapError (.transport operation)).bind read := by
  obtain ⟨answer, ys, _, rfl, hsent, hrest⟩ := trace_bind_iff.1 h
  obtain ⟨rfl, rfl⟩ := trace_done_iff.1 hrest
  obtain ⟨outcome, zs, _, rfl, hsend, hrest⟩ := trace_bind_iff.1 hsent
  rw [List.append_nil]
  cases outcome with
  | ok a =>
    obtain ⟨rfl, rfl⟩ := trace_done_iff.1 hrest
    exact ⟨.ok a, by rwa [List.append_nil], rfl⟩
  | error cause =>
    obtain ⟨rfl, rfl⟩ := trace_done_iff.1 hrest
    exact ⟨.error cause, by rwa [List.append_nil], rfl⟩

def NoWebVersion (q : Request) : Prop :=
  ∃ versionUrl, q.versionUrl? = some versionUrl ∧
    ∀ u, Url.ofText versionUrl = .ok u → u.isHttp = false

def IsUnnamed (c : Client) (q : Request) : Prop :=
  ∃ url, c.address q = .ok url ∧ Http.addressOf? (Http.Request.of "POST" url).url = none

def IsUnread (xs : List (Exchange World.Request World.Reply)) : Prop :=
  ∃ path cause, xs = [⟨.readFile path, .error cause⟩]

/-- How a call goes: what is sent for it, and how it ends with an answer.  It is left open what
keeps it from being made in the first place. -/
structure Carries (c : Client) (q : Request) (kept : Prop)
    (xs : List (Exchange World.Request World.Reply)) (reply : Reply q) : Prop where
  unsent_iff : Http.sendings xs = [] ↔ kept ∨ NoWebVersion q ∨ c.IsUnnamed q
  /-- A call for which nothing is sent fails. -/
  unsent : Http.sendings xs = [] → ∃ e, reply = .error e ∧ e.isConflict = false
  /-- A user in the address is named before the one of the client. -/
  sent : ∀ first rest, Http.sendings xs = first :: rest →
    (∃ url, c.address q = .ok url ∧
      first.message.Authorises (Http.usersOf url ++ [(c.login, c.password)])) ∧
    ∀ response a, first.reply = some response → response.isAnswer = true →
      Http.isRedirect response.status = false → response.answer = .ok a →
      rest = [] ∧ Settled q a reply

/-! ### Addresses -/

theorem below_ok {versionUrl tail : String} {u : Url} (h : below versionUrl tail = .ok u) :
    ∃ version, Url.ofText versionUrl = .ok version ∧ u.isHttp = version.isHttp := by
  unfold below at h
  cases hread : Url.ofText versionUrl with
  | ok version =>
    rw [hread] at h
    cases h
    exact ⟨version, rfl, rfl⟩
  | error problem =>
    rw [hread] at h
    cases h

theorem below_error {versionUrl tail : String} {e : RemoteError}
    (h : below versionUrl tail = .error e) :
    e.isConflict = false ∧ ∃ problem, Url.ofText versionUrl = .error problem := by
  unfold below at h
  cases hread : Url.ofText versionUrl with
  | ok version =>
    rw [hread] at h
    cases h
  | error problem =>
    rw [hread] at h
    cases h
    exact ⟨rfl, problem, rfl⟩

theorem address_of_version {versionUrl : String} (h : q.versionUrl? = some versionUrl) :
    ∃ tail, c.address q = below versionUrl tail := by
  cases q with
  | addFile _ file =>
    cases h
    exact ⟨"files", rfl⟩
  | persist _ =>
    cases h
    exact ⟨"persist", rfl⟩
  | _ => cases h

/-- The services are on the web, so only the address of a version can be elsewhere. -/
theorem address_of_service (hidentity : c.identity.isHttp = true)
    (hcontent : c.content.isHttp = true) (h : q.versionUrl? = none) :
    ∃ u, c.address q = .ok u ∧ u.isHttp = true := by
  cases q with
  | addFile | persist => cases h
  | createProvider | createCloudId | getCloudId => exact ⟨_, rfl, hidentity⟩
  | createDataSet | createRepresentation | assign => exact ⟨_, rfl, hcontent⟩

theorem noWebVersion_iff (hidentity : c.identity.isHttp = true)
    (hcontent : c.content.isHttp = true) :
    NoWebVersion q ↔ ∀ u, c.address q = .ok u → u.isHttp = false := by
  cases hversion : q.versionUrl? with
  | none =>
    obtain ⟨u, haddress, hhttp⟩ := address_of_service hidentity hcontent hversion
    constructor
    · rintro ⟨versionUrl, hsome, -⟩
      rw [hversion] at hsome
      cases hsome
    · intro h
      rw [h u haddress] at hhttp
      cases hhttp
  | some versionUrl =>
    obtain ⟨tail, haddress⟩ := address_of_version (c := c) hversion
    rw [haddress]
    constructor
    · rintro ⟨_, hsome, hother⟩ u hbelow
      obtain rfl := Option.some.inj (hversion.symm.trans hsome)
      obtain ⟨version, hread, hhttp⟩ := below_ok hbelow
      rw [hhttp]
      exact hother version hread
    · intro h
      refine ⟨versionUrl, hversion, fun version hread => ?_⟩
      have hbelow : below versionUrl tail = .ok (version.join [tail, ""]) := by
        rw [below, hread]
      have hhttp := h _ hbelow
      exact hhttp

/-! ### Calls -/

theorem carries_of_unsent {kept : Prop} {reply : Reply q} {e : RemoteError}
    (hreason : kept ∨ NoWebVersion q ∨ c.IsUnnamed q) (hsendings : Http.sendings xs = [])
    (hreply : reply = .error e) (hconflict : e.isConflict = false) :
    Carries c q kept xs reply where
  unsent_iff := iff_of_true hsendings hreason
  unsent := fun _ => ⟨e, hreply, hconflict⟩
  sent := by
    intro first rest h
    rw [hsendings] at h
    cases h

/-- A call for an address of the web that a message can name sends that message first. -/
theorem carries_call {r : Http.Request} {url : Url} (haddress : c.address q = .ok url)
    (husers : List.Forall₂ Http.IsBasicAuth (r.headers.values "authorization") (Http.usersOf url))
    (hversion : NoWebVersion q ↔ r.url.isHttp = false)
    (hunnamed : c.IsUnnamed q ↔ Http.addressOf? r.url = none) {reply : Reply q}
    (h : (c.call q.operation r q.read).Trace xs reply) : Carries c q False xs reply := by
  obtain ⟨outcome, hsend, hreply⟩ := trace_call h
  by_cases hunsent : r.url.isHttp = false ∨ Http.addressOf? r.url = none
  · obtain ⟨rfl, rfl⟩ :=
      Http.Client.trace_send_of_unnamed (r := r.withAuth c.login c.password) hunsent hsend
    exact carries_of_unsent (.inr (hunsent.imp hversion.2 hunnamed.2)) rfl hreply rfl
  · obtain ⟨hweb, hnamed⟩ := not_or.1 hunsent
    obtain ⟨address, hnames⟩ := Option.ne_none_iff_exists'.1 hnamed
    obtain ⟨answered, others, hsendings, hsettles⟩ :=
      Http.Client.trace_send (r := r.withAuth c.login c.password) (eq_true_of_ne_false hweb)
        hnames hsend
    refine
      { unsent_iff := iff_of_false (by simp [hsendings]) ?_
        unsent := fun hnil => by simp [hsendings] at hnil
        sent := ?_ }
    · rintro (hkept | hkept | hkept)
      · exact hkept
      · exact hweb (hversion.1 hkept)
      · exact hnamed (hunnamed.1 hkept)
    · intro first rest hcons
      obtain ⟨rfl, rfl⟩ := List.cons.inj (hsendings.symm.trans hcons)
      refine ⟨⟨url, haddress, Http.authorises_message c.http husers c.login c.password address⟩, ?_⟩
      intro response a hresponse hanswer hredirect hread
      obtain ⟨hlast, houtcome⟩ := hsettles response hresponse hanswer hredirect
      rw [hread] at houtcome
      refine ⟨hlast, ?_⟩
      rw [hreply, houtcome]
      exact q.settled_read a

theorem carries_make (hidentity : c.identity.isHttp = true) (hcontent : c.content.isHttp = true)
    {upload : Bytes} {reply : Reply q} (h : (c.make upload q).Trace xs reply) :
    Carries c q False xs reply := by
  have hversion := noWebVersion_iff (q := q) hidentity hcontent
  rw [make] at h
  cases haddress : c.address q with
  | error e =>
    rw [haddress] at h hversion
    obtain ⟨rfl, rfl⟩ := trace_done_iff.1 h
    have hnone : NoWebVersion q := hversion.2 nofun
    obtain ⟨versionUrl, hgiven, -⟩ := id hnone
    obtain ⟨tail, hbelow⟩ := address_of_version (c := c) hgiven
    have hconflict := (below_error (hbelow.symm.trans haddress)).1
    exact carries_of_unsent (.inr (.inl hnone)) rfl rfl hconflict
  | ok u =>
    rw [haddress] at h hversion
    have hurl := url_requestAt upload u q
    refine carries_call haddress (authorises_requestAt upload u q) ?_ ?_ h
    · rw [hversion, hurl, Http.isHttp_of]
      constructor
      · intro hall
        exact hall u rfl
      · rintro hfalse _ ⟨⟩
        exact hfalse
    · rw [IsUnnamed, haddress, hurl]
      constructor
      · rintro ⟨_, ⟨⟩, hnone⟩
        exact hnone
      · intro hnone
        exact ⟨u, rfl, hnone⟩

/-- A call is made at once or, for an upload, when its file has been read. -/
theorem carries_answer (hidentity : c.identity.isHttp = true) (hcontent : c.content.isHttp = true)
    {reply : Reply q} (h : (c.answer q).Trace xs reply) : Carries c q (IsUnread xs) xs reply := by
  by_cases hupload : ∃ versionUrl file, q = .addFile versionUrl file
  · obtain ⟨versionUrl, file, rfl⟩ := hupload
    rw [answer_addFile] at h
    obtain ⟨contentRead, rest, rfl, hrest⟩ := trace_ask_iff.1 h
    cases contentRead with
    | error cause =>
      obtain ⟨rfl, rfl⟩ := trace_done_iff.1 hrest
      exact carries_of_unsent (.inl ⟨file.path, cause, rfl⟩) rfl rfl rfl
    | ok content =>
      obtain ⟨hunsent, hfails, hsent⟩ := carries_make hidentity hcontent hrest
      have hread : ¬IsUnread (⟨.readFile file.path, .ok content⟩ :: rest) := by
        rintro ⟨path, cause, heq⟩
        cases heq
      exact ⟨hunsent.trans (or_congr_left (iff_of_false id hread)), hfails, hsent⟩
  · have hother : ∀ versionUrl file, q ≠ .addFile versionUrl file :=
      fun versionUrl file heq => hupload ⟨versionUrl, file, heq⟩
    rw [answer_eq_make c hother] at h
    obtain ⟨hunsent, hfails, hsent⟩ := carries_make hidentity hcontent h
    refine ⟨?_, hfails, hsent⟩
    rw [hunsent, false_or]
    constructor
    · exact .inr
    · rintro (⟨path, cause, rfl⟩ | hreason)
      · exact (hunsent.1 rfl).resolve_left id
      · exact hreason

/-- An identifier that is too long cannot be asked for. -/
theorem isUnnamed_of_long (c : Client) {key : RecordKey}
    (h : Http.maxAddress < key.providerId.toList.length) : c.IsUnnamed (.getCloudId key) := by
  refine ⟨c.cloudIdsUrl key, rfl, ?_⟩
  have hquery : (Http.Request.of "POST" (c.cloudIdsUrl key)).url.query =
      (c.cloudIdsUrl key).query := by
    rcases Http.url_of "POST" (c.cloudIdsUrl key) with heq | heq
    · rw [heq]
    · rw [heq]
      rfl
  have hlength := Http.length_le_append (c.identity.join ["cloudIds", ""]).query "providerId"
    key.providerId (key.recordId.map fun id => ("recordId", id)).toList
  exact Http.addressOf?_of_long hquery (Nat.lt_of_lt_of_le h hlength)

theorem sendings_of_long (hidentity : c.identity.isHttp = true) (hcontent : c.content.isHttp = true)
    {key : RecordKey} (h : Http.maxAddress < key.providerId.toList.length) {σ : Type}
    (peer : Peer World.Request World.Reply σ) (s : σ) :
    Http.sendings ((c.answer (.getCloudId key)).run peer s).exchanges = [] := by
  have hcarries := carries_answer hidentity hcontent
    (trace_run peer (c.answer (.getCloudId key)) s)
  exact hcarries.unsent_iff.2 (.inr (.inr (isUnnamed_of_long c h)))

/-! ## Answers -/

/-- For each request to services on the web one message is sent that says who asks, and an answer
that sends it nowhere else settles how the request ends.  Nothing is sent only if the file of an
upload cannot be read, the address of a version is none of the web, or no message can name the
address. -/
theorem answers_settled {c : Client} (hidentity : c.identity.isHttp = true)
    (hcontent : c.content.isHttp = true) (q : Request) {σ : Type}
    (peer : Peer World.Request World.Reply σ) (s : σ) :
    Carries c q (IsUnread ((c.answer q).run peer s).exchanges) ((c.answer q).run peer s).exchanges
      ((c.answer q).run peer s).value :=
  carries_answer hidentity hcontent (trace_run peer (c.answer q) s)

/-- A repository below the host with the name of one letter, asked by a user without a name. -/
def plainClient : Client :=
  ⟨⟨none⟩, ⟨"http", some ⟨"", none, .domain "h", none⟩, .segments ["uis"], none, none⟩,
    ⟨"http", some ⟨"", none, .domain "h", none⟩, .segments ["mcs"], none, none⟩, "", ""⟩

def conflictPeer : Peer World.Request World.Reply Unit where
  reply s
    | .startWorkers _ => (.ok (), s)
    | .exchange .. => (some ⟨409, none, ⟨[], .utf8⟩, true⟩, s)
    | .readFile _ => (.ok [], s)
    | .readSettings => (none, s)
    | .fileNames _ => (none, s)
    | .makeFolders _ => (.ok (), s)
    | .writeFile .. => (.ok (), s)
    | .launch .. => (.ok none, s)
    | .print .output _ => ((), s)
    | .print .errors _ => (true, s)

/-- A provider that exists already is not created, which is told from other failures. -/
theorem answers_settled_conflict :
    plainClient.identity.isHttp = true ∧ plainClient.content.isHttp = true ∧
      ∃ e, ((plainClient.answer (.createProvider "p" "\x7b\x7d")).run conflictPeer ()).value =
        .error e ∧ e.isConflict = true := by
  have hidentity : plainClient.identity.isHttp = true := by decide
  have hcontent : plainClient.content.isHttp = true := by decide
  have hcarries := answers_settled hidentity hcontent (.createProvider "p" "\x7b\x7d")
    conflictPeer ()
  have hreplies : (Http.sendings ((plainClient.answer
      (.createProvider "p" "\x7b\x7d")).run conflictPeer ()).exchanges).map (·.reply) =
        [some ⟨409, none, ⟨[], .utf8⟩, true⟩] := by decide +kernel
  obtain ⟨first, rest, hsendings, hreply, -⟩ := List.map_eq_cons_iff.1 hreplies
  obtain ⟨-, hsettles⟩ := hcarries.sent first rest hsendings
  obtain ⟨-, hsettled⟩ := hsettles _ ⟨409, "", none⟩ hreply rfl rfl rfl
  have hvalue := hsettled.unexpected (by decide)
  exact ⟨hidentity, hcontent, _, hvalue, (hsettled.conflict_iff _ hvalue).2 rfl⟩

def longName (n : Nat) : String := String.ofList (List.replicate n 'a')

theorem length_longName (n : Nat) : (longName n).toList.length = n := by
  rw [longName, String.toList_ofList, List.length_replicate]

/-- Nothing is sent for a request although it is no upload and its services are on the web. -/
theorem getCloudId_unsent :
    plainClient.identity.isHttp = true ∧ plainClient.content.isHttp = true ∧
      Http.sendings ((plainClient.answer
        (.getCloudId ⟨longName 65600, none⟩)).run conflictPeer ()).exchanges = [] := by
  have hidentity : plainClient.identity.isHttp = true := by decide
  have hcontent : plainClient.content.isHttp = true := by decide
  have hmax : Http.maxAddress < 65600 := by
    unfold Http.maxAddress
    omega
  have hlong := Nat.lt_of_lt_of_eq hmax (length_longName 65600).symm
  have hunsent := @sendings_of_long plainClient hidentity hcontent ⟨longName 65600, none⟩ hlong
    Unit conflictPeer ()
  exact ⟨hidentity, hcontent, hunsent⟩

end Client

end Ingest.Repository
