import Ingest.Proofs.Http.Resources
import Ingest.Proofs.Repository.Answers
import Ingest.Proofs.Text.Form
import Ingest.Proofs.Url.Written
/-!
# Pairs in messages

What a request says about identifiers stands in the query of its address or in its body, as
form-encoded pairs.  A server that reads them from the message finds the documented names with the
given values, in their order, and behind the pairs that the address of the service came with.
-/

namespace Ingest

/-! ## Documented pairs -/

def given (entries : List (String × Option String)) : List (String × String) :=
  entries.filterMap fun (name, value) => value.map fun v => (name, v)

namespace Repository

def Request.queryEntries : Request → List (String × Option String)
  | .createProvider id _ => [("providerId", some id)]
  | .createCloudId key | .getCloudId key =>
    [("providerId", some key.providerId), ("recordId", key.recordId)]
  | _ => []

def Request.formEntries? : Request → Option (List (String × Option String))
  | .createDataSet _ dataSet =>
    some [("dataSetId", some dataSet.id), ("description", dataSet.description)]
  | .createRepresentation _ _ providerId => some [("providerId", some providerId)]
  | .assign _ _ assignment =>
    some [("cloudId", some assignment.cloudId),
      ("representationName", some assignment.representation), ("version", assignment.version)]
  | _ => none

/-- The service whose address a request goes on from; some go on from that of a version. -/
def Client.service? (c : Client) : Request → Option Url
  | .createProvider .. | .createCloudId _ | .getCloudId _ => some c.identity
  | .createDataSet .. | .createRepresentation .. | .assign .. => some c.content
  | .addFile .. | .persist _ => none

end Repository

namespace Http

/-! ## Reading a message -/

def Message.queryPairs (m : Message) : List (String × String) := Form.decode (Url.queryIn m.target)

def Message.formPairs? (m : Message) : Option (List (String × String)) :=
  match m.body with
  | .bytes content => (Utf8.decode? content).map Form.decode
  | .parts _ => none

theorem Message.formPairs?_of_form {m : Message} {pairs : List (String × String)}
    (h : m.body = .text (Form.encode pairs)) : m.formPairs? = some pairs := by
  rw [formPairs?, h]
  show (Utf8.decode? (Utf8.encode (Form.encode pairs))).map Form.decode = some pairs
  rw [Utf8.decode?_encode, Option.map_some, Form.decode_encode]

theorem isClean_of {u : Url} (h : u.IsClean) (method : String) :
    (Request.of method u).url.IsClean := by
  rcases url_of method u with heq | heq <;> rw [heq]
  · exact h
  · exact h.withoutUser

theorem query_of (method : String) (u : Url) : (Request.of method u).url.query = u.query := by
  rcases url_of method u with heq | heq <;> rw [heq]
  rfl

/-- Naming an address changes nothing about its query. -/
theorem isClean_addressOf? {u address : Url} (h : u.IsClean)
    (haddress : addressOf? u = some address) :
    address.IsClean ∧ address.query = u.query := by
  obtain ⟨hhttp, ⟨a, ha, hmarks⟩, parts, hpath, hparts⟩ := h
  unfold addressOf? at haddress
  split at haddress
  · cases haddress
  · rw [ha] at haddress
    dsimp only at haddress
    split at haddress
    · -- A path without a text becomes the root, and nothing else changes.
      obtain rfl := Option.some.inj haddress
      refine ⟨⟨hhttp, ⟨a, ha, hmarks⟩, ?_⟩, rfl⟩
      show ∃ parts, (if u.path.text.isEmpty then .segments [""] else u.path) =
        Url.Path.segments parts ∧ ∀ part ∈ parts, Url.IsPart part
      split
      · have hempty : Url.IsPart "" := ⟨by decide, by decide⟩
        exact ⟨[""], rfl, by simpa using hempty⟩
      · exact ⟨parts, hpath, hparts⟩
    · cases haddress

theorem queryIn_route (c : Client) {u : Url} (h : u.IsClean) :
    Url.queryIn (c.route u).2 = u.query.getD "" := by
  unfold Client.route
  dsimp only
  split
  · split
    · exact Url.queryIn_target h
    · split
      · exact Url.queryIn_target h
      · exact Url.queryIn_text h
  · exact Url.queryIn_target h

/-- What is sent first for a request is the message that names its address. -/
theorem Client.message_of_first? {c : Client} {r : Request} {sent : World.Request}
    (h : (c.send r).first? = some sent) :
    ∃ address, addressOf? r.url = some address ∧
      sent = .exchange (c.message { r with url := address }).1
        (c.message { r with url := address }).2 := by
  have hhttp := isHttp_of_first? h
  unfold Client.send at h
  rw [hhttp, if_pos rfl] at h
  cases haddress : addressOf? r.url with
  | none =>
      rw [haddress] at h
      cases h
  | some address =>
      rw [haddress] at h
      have hfirst := Client.first?_sendFrom c r.url maxRedirects { r with url := address }
      exact ⟨address, rfl, Option.some.inj (h.symm.trans hfirst)⟩

variable {c : Client} {r : Request} {connection : Connection} {m : Message}

/-- A message can be sent to the address of a request: it is one of the web and can be named. -/
def IsSendable (u : Url) : Prop := u.isHttp = true ∧ addressOf? (Request.of "POST" u).url ≠ none

instance {u : Url} : Decidable (IsSendable u) := inferInstanceAs (Decidable (_ ∧ _))

theorem Client.exists_exchange_iff {u : Url} (hurl : r.url = (Request.of "POST" u).url) :
    (∃ connection m, (c.send r).first? = some (.exchange connection m)) ↔ IsSendable u := by
  rw [IsSendable, ← isHttp_of "POST" u, ← hurl]
  constructor
  · rintro ⟨connection, m, hsent⟩
    obtain ⟨address, haddress, -⟩ := message_of_first? hsent
    refine ⟨isHttp_of_first? hsent, ?_⟩
    rw [haddress]
    exact Option.some_ne_none address
  · rintro ⟨hhttp, hnamed⟩
    obtain ⟨address, haddress⟩ := Option.ne_none_iff_exists'.1 hnamed
    have hsent := Client.first?_sendFrom c r.url maxRedirects { r with url := address }
    rw [send, hhttp, if_pos rfl, haddress]
    exact ⟨_, _, hsent⟩

theorem Client.body_of_first? (h : (c.send r).first? = some (.exchange connection m)) :
    m.body = r.body := by
  obtain ⟨address, -, hsent⟩ := message_of_first? h
  cases hsent
  rfl

theorem Client.queryPairs_of_first? (hclean : r.url.IsClean)
    (h : (c.send r).first? = some (.exchange connection m)) :
    m.queryPairs = Form.decode (r.url.query.getD "") := by
  obtain ⟨address, haddress, hsent⟩ := message_of_first? h
  obtain ⟨hnamed, hquery⟩ := isClean_addressOf? hclean haddress
  have htarget : m.target = (c.route address).2 := by
    cases hsent
    rfl
  rw [Message.queryPairs, htarget, queryIn_route c hnamed, hquery]

end Http

/-! ## Requests to the repository -/

namespace Repository.Client

variable {c : Client} {q : Request} {service : Url}

theorem ofText_of_serviceUrl {endPoint path : String} {u : Url}
    (h : serviceUrl endPoint path = .ok u) : Url.ofText (serviceText endPoint path) = .ok u := by
  unfold serviceUrl at h
  dsimp only at h
  exact mapError_eq_ok_iff.1 h

theorem services_of_build {config : ImportConfig} (h : build config = .ok c) :
    Url.ofText (serviceText config.endPoint config.identityService) = .ok c.identity ∧
      Url.ofText (serviceText config.endPoint config.contentService) = .ok c.content := by
  obtain ⟨identity, hidentity, h⟩ := bind_eq_ok_iff.1 h
  obtain ⟨content, hcontent, h⟩ := bind_eq_ok_iff.1 h
  obtain ⟨http, -, h⟩ := bind_eq_ok_iff.1 h
  cases h
  exact ⟨ofText_of_serviceUrl hidentity, ofText_of_serviceUrl hcontent⟩

theorem exists_text_of_service? {config : ImportConfig} (h : build config = .ok c)
    (hservice : c.service? q = some service) : ∃ text, Url.ofText text = .ok service := by
  obtain ⟨hidentity, hcontent⟩ := services_of_build h
  cases q with
  | createProvider | createCloudId | getCloudId =>
      obtain rfl := Option.some.inj hservice
      exact ⟨_, hidentity⟩
  | createDataSet | createRepresentation | assign =>
      obtain rfl := Option.some.inj hservice
      exact ⟨_, hcontent⟩
  | addFile | persist => cases hservice

/-- The address that a request is made for goes on from that of its service: by segments, and by
the pairs that it adds. -/
structure GoesOn (service url : Url) (entries : List (String × Option String)) : Prop where
  scheme : url.scheme = service.scheme
  isClean : service.IsClean → url.IsClean
  pairs : Form.decode (url.query.getD "") = Form.decode (service.query.getD "") ++ given entries

theorem goesOn_join (service : Url) (segments : List String) :
    GoesOn service (service.join segments) [] where
  scheme := rfl
  isClean h := h.join segments
  pairs := (List.append_nil _).symm

theorem goesOn_withPairs (service : Url) (segments : List String) {pairs : List (String × String)}
    {entries : List (String × Option String)} (h : pairs = given entries) :
    GoesOn service ((service.join segments).withPairs pairs) entries where
  scheme := rfl
  isClean hservice := (hservice.join segments).withPairs pairs
  pairs := by
    rw [← h]
    exact Form.decode_append service.query pairs

theorem given_keyPairs (key : RecordKey) :
    ("providerId", key.providerId) :: (key.recordId.map fun id => ("recordId", id)).toList =
      given [("providerId", some key.providerId), ("recordId", key.recordId)] := by
  cases h : key.recordId <;> rfl

theorem given_dataSetPairs (dataSet : NewDataSet) :
    dataSetPairs dataSet =
      given [("dataSetId", some dataSet.id), ("description", dataSet.description)] := by
  rw [dataSetPairs]
  cases dataSet.description <;> rfl

theorem given_assignmentPairs (assignment : Assignment) :
    assignmentPairs assignment =
      given [("cloudId", some assignment.cloudId),
        ("representationName", some assignment.representation),
        ("version", assignment.version)] := by
  rw [assignmentPairs]
  cases assignment.version <;> rfl

theorem exists_address (h : c.service? q = some service) :
    ∃ url, c.address q = .ok url ∧ GoesOn service url q.queryEntries := by
  cases q with
  | createProvider id data =>
      obtain rfl := Option.some.inj h
      exact ⟨_, rfl, goesOn_withPairs _ _ rfl⟩
  | createCloudId key | getCloudId key =>
      obtain rfl := Option.some.inj h
      exact ⟨_, rfl, goesOn_withPairs _ _ (given_keyPairs key)⟩
  | createDataSet | createRepresentation | assign =>
      obtain rfl := Option.some.inj h
      exact ⟨_, rfl, goesOn_join _ _⟩
  | addFile | persist => cases h

theorem body_requestAt {entries : List (String × Option String)} (h : q.formEntries? = some entries)
    (upload : Bytes) (url : Url) :
    (requestAt upload url q).body = .text (Form.encode (given entries)) := by
  cases q with
  | createDataSet _ dataSet =>
      obtain rfl := Option.some.inj h
      rw [← given_dataSetPairs]
      rfl
  | createRepresentation =>
      obtain rfl := Option.some.inj h
      rfl
  | assign _ _ assignment =>
      obtain rfl := Option.some.inj h
      rw [← given_assignmentPairs]
      rfl
  | createProvider | createCloudId | getCloudId | addFile | persist => cases h

/-- What is sent first for a request to a service is the HTTP request for its address. -/
theorem first?_answer {url : Url} (hservice : c.service? q = some service)
    (haddress : c.address q = .ok url) :
    (c.answer q).first? =
      (c.http.send ((requestAt [] url q).withAuth c.login c.password)).first? := by
  have hother : ∀ versionUrl file, q ≠ .addFile versionUrl file := by
    rintro versionUrl file rfl
    cases hservice
  rw [answer_eq_make c hother, make, haddress]
  exact c.first?_call _ _ _

theorem exists_exchange_iff {url : Url} (hservice : c.service? q = some service)
    (haddress : c.address q = .ok url) :
    (∃ connection m, (c.answer q).first? = some (.exchange connection m)) ↔
      Http.IsSendable url := by
  rw [first?_answer hservice haddress]
  exact Http.Client.exists_exchange_iff (url_requestAt [] url q)

theorem pairs_of_answer (htext : ∃ text, Url.ofText text = .ok service)
    (hservice : c.service? q = some service) {connection : Http.Connection} {m : Http.Message}
    (h : (c.answer q).first? = some (.exchange connection m)) :
    m.queryPairs = Form.decode (service.query.getD "") ++ given q.queryEntries ∧
      ∀ entries, q.formEntries? = some entries → m.formPairs? = some (given entries) := by
  obtain ⟨text, hread⟩ := htext
  obtain ⟨url, haddress, hurl⟩ := exists_address hservice
  rw [first?_answer hservice haddress] at h
  have hof : ((requestAt [] url q).withAuth c.login c.password).url =
      (Http.Request.of "POST" url).url := url_requestAt [] url q
  have hhttp : service.isHttp = true := by
    have hsent := Http.Client.isHttp_of_first? h
    rw [hof, Http.isHttp_of, Url.isHttp, hurl.scheme] at hsent
    exact hsent
  have hclean : ((requestAt [] url q).withAuth c.login c.password).url.IsClean := by
    rw [hof]
    exact Http.isClean_of (hurl.isClean (Url.isClean_ofText hread hhttp)) "POST"
  constructor
  · rw [Http.Client.queryPairs_of_first? hclean h, hof, Http.query_of, hurl.pairs]
  · intro entries hentries
    apply Http.Message.formPairs?_of_form
    rw [Http.Client.body_of_first? h]
    exact body_requestAt hentries [] url

end Repository.Client

/-! ## Requests for permission -/

theorem Provision.Services.form_of_permitTopology {s : Services} {dps topic : String}
    {user : Credentials} {connection : Http.Connection} {m : Http.Message}
    (h : (s.permitTopology dps topic user).first? = some (.exchange connection m)) :
    m.formPairs? = some [("username", user.login)] := by
  cases hurl : topologyUrl dps topic "permit" with
  | error e =>
      unfold permitTopology at h
      rw [hurl] at h
      cases h
  | ok url =>
      rw [first?_permitTopology hurl] at h
      exact Http.Message.formPairs?_of_form (Http.Client.body_of_first? h)

theorem Provision.Services.exists_exchange_iff {s : Services} {dps topic : String}
    {user : Credentials} :
    (∃ connection m, (s.permitTopology dps topic user).first? = some (.exchange connection m)) ↔
      ∃ url, topologyUrl dps topic "permit" = .ok url ∧ Http.IsSendable url := by
  cases hurl : topologyUrl dps topic "permit" with
  | error e =>
      have hnothing : (s.permitTopology dps topic user).first? = none := by
        unfold permitTopology
        rw [hurl]
        rfl
      simp [hnothing]
  | ok url =>
      have hsends := Http.Client.exists_exchange_iff (c := s.http)
        (r := ((Http.Request.of "POST" url).withAuth user.login user.password).withForm
          [("username", user.login)]) (u := url) rfl
      rw [first?_permitTopology hurl, hsends]
      simp

/-- Whatever the texts are, a server reads them back: behind the pairs of its own address stand the
documented ones of the request in the query, and those of a form are its body. -/
theorem pairs_read_back {config : ImportConfig} {c : Repository.Client}
    (hbuild : Repository.Client.build config = .ok c) (s : Provision.Services) :
    (∀ q service, c.service? q = some service →
      (∃ url, c.address q = .ok url ∧ Form.decode (url.query.getD "") =
          Form.decode (service.query.getD "") ++ given q.queryEntries ∧
        ((∃ connection m, (c.answer q).first? = some (.exchange connection m)) ↔
          Http.IsSendable url)) ∧
      ∀ connection m, (c.answer q).first? = some (.exchange connection m) →
        m.queryPairs = Form.decode (service.query.getD "") ++ given q.queryEntries ∧
        ∀ entries, q.formEntries? = some entries → m.formPairs? = some (given entries)) ∧
    ∀ dps topic user,
      ((∃ connection m, (s.answer (.permitTopology dps topic user)).first? =
          some (.exchange connection m)) ↔
        ∃ url, Provision.topologyUrl dps topic "permit" = .ok url ∧ Http.IsSendable url) ∧
      ∀ connection m, (s.answer (.permitTopology dps topic user)).first? =
          some (.exchange connection m) →
        m.formPairs? = some [("username", user.login)] := by
  constructor
  · intro q service hservice
    obtain ⟨url, haddress, hurl⟩ := Repository.Client.exists_address hservice
    refine ⟨⟨url, haddress, hurl.pairs, ?_⟩, fun connection m h => ?_⟩
    · exact Repository.Client.exists_exchange_iff hservice haddress
    · have htext := Repository.Client.exists_text_of_service? hbuild hservice
      exact Repository.Client.pairs_of_answer htext hservice h
  · intro dps topic user
    have hanswer : s.answer (.permitTopology dps topic user) = s.permitTopology dps topic user := rfl
    rw [hanswer]
    exact ⟨Provision.Services.exists_exchange_iff,
      fun connection m h => Provision.Services.form_of_permitTopology h⟩

/-! ## Samples -/

def queryConfig : ImportConfig :=
  ⟨"http://h/", "/uis?a=b+c&&%26#f", "mcs/?", "u", "p", some "q:1", false, none, false, none, [],
    [], [], []⟩

def queryClient : Repository.Client :=
  ⟨⟨some ⟨⟨"q", 1⟩, none⟩⟩,
    ⟨"http", some ⟨"", none, .domain "h", none⟩, .segments ["uis"], some "a=b+c&&%26", some "f"⟩,
    ⟨"http", some ⟨"", none, .domain "h", none⟩, .segments ["mcs", ""], some "", none⟩, "u", "p"⟩

theorem build_queryConfig : Repository.Client.build queryConfig = .ok queryClient :=
  toOption_eq_some_iff.1 (by decide +kernel)

def permitUrl : Url :=
  ⟨"http", some ⟨"", none, .domain "h", none⟩, .segments ["topologies", "t", "permit", ""], none,
    none⟩

theorem topologyUrl_permitUrl : Provision.topologyUrl "h" "t" "permit" = .ok permitUrl :=
  toOption_eq_some_iff.1 (by decide +kernel)

/-- Ampersands, plus signs, spaces and letters of other scripts come back as they were, and an empty
text is not taken for a missing one. -/
theorem pairs_read_back_awkward :
    (∃ connection m, (queryClient.answer (.createCloudId ⟨"é & =+%2B", some ""⟩)).first? =
        some (.exchange connection m) ∧
      m.queryPairs = [("a", "b c"), ("&", ""), ("providerId", "é & =+%2B"), ("recordId", "")]) ∧
    (∃ connection m, (queryClient.answer (.assign "P" "D" ⟨"c&d=", "tif f", none⟩)).first? =
        some (.exchange connection m) ∧
      m.formPairs? = some [("cloudId", "c&d="), ("representationName", "tif f")]) ∧
    ∃ connection m, ((⟨⟨none⟩⟩ : Provision.Services).answer
        (.permitTopology "h" "t" ⟨"ü+&=", ""⟩)).first? = some (.exchange connection m) ∧
      m.formPairs? = some [("username", "ü+&=")] := by
  obtain ⟨hpairs, hpermit⟩ := pairs_read_back build_queryConfig ⟨⟨none⟩⟩
  obtain ⟨⟨url, haddress, -, hsends⟩, hreads⟩ :=
    hpairs (.createCloudId ⟨"é & =+%2B", some ""⟩) queryClient.identity rfl
  obtain ⟨⟨url', haddress', -, hsends'⟩, hreads'⟩ :=
    hpairs (.assign "P" "D" ⟨"c&d=", "tif f", none⟩) queryClient.content rfl
  obtain ⟨hsends'', hreads''⟩ := hpermit "h" "t" ⟨"ü+&=", ""⟩
  refine ⟨?_, ?_, ?_⟩
  · cases haddress
    obtain ⟨connection, m, hsent⟩ := hsends.2 (by decide +kernel)
    refine ⟨connection, m, hsent, ?_⟩
    rw [(hreads connection m hsent).1]
    decide +kernel
  · cases haddress'
    obtain ⟨connection, m, hsent⟩ := hsends'.2 (by decide +kernel)
    exact ⟨connection, m, hsent, (hreads' connection m hsent).2 _ rfl⟩
  · obtain ⟨connection, m, hsent⟩ := hsends''.2 ⟨permitUrl, topologyUrl_permitUrl, by decide⟩
    exact ⟨connection, m, hsent, hreads'' connection m hsent⟩

end Ingest
