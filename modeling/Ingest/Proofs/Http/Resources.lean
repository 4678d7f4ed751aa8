import Ingest.Proofs.Config.Acceptance
import Ingest.Proofs.Http.Sending
import Ingest.Proofs.Url.Appending
import Ingest.Provision.Services
import Ingest.Repository.Client
/-!
# Resources and their addresses

The identifiers of some resources stand in the path of their addresses.  There they keep their
meaning as long as they are plain: the path has the documented segments below the root of the
service, each identifier can be read back from it, and other identifiers have another address.
Dots alone, tabs and line breaks are lost on the way, and with them the difference between
resources.
-/

namespace Ingest

/-! ## Resources -/

/-- What a request is about, with the identifiers that stand in its address. -/
inductive Resource where
  | dataSets (providerId : String)
  | representation (cloudId name : String)
  | assignments (providerId dataSetId : String)
  | permission (topic : String)
  | tasks (topic : String)
  deriving DecidableEq, Repr

namespace Resource

/-- The documented way to a resource from the root of its service. -/
def way : Resource → List String
  | .dataSets providerId => ["data-providers", providerId, "data-sets", ""]
  | .representation cloudId name => ["records", cloudId, "representations", name, ""]
  | .assignments providerId dataSetId =>
    ["data-providers", providerId, "data-sets", dataSetId, "assignments", ""]
  | .permission topic => ["topologies", topic, "permit", ""]
  | .tasks topic => ["topologies", topic, "tasks", ""]

def identifiers : Resource → List String
  | .dataSets providerId => [providerId]
  | .representation cloudId name => [cloudId, name]
  | .assignments providerId dataSetId => [providerId, dataSetId]
  | .permission topic | .tasks topic => [topic]

/-- No identifier loses anything in an address. -/
def IsPlain (r : Resource) : Prop := ∀ id ∈ r.identifiers, Url.IsPlain id

instance : DecidablePred IsPlain := fun r => inferInstanceAs (Decidable (∀ id ∈ r.identifiers, _))

theorem way_injective {r r' : Resource} (h : r.way = r'.way) : r = r' := by
  cases r <;> cases r' <;> simp [way] at h <;> simp [h]

/-- The words of a way are plain, so that only the identifiers count. -/
theorem forall_way_iff (r : Resource) : (∀ segment ∈ r.way, Url.IsPlain segment) ↔ r.IsPlain := by
  have hwords : ∀ word ∈ ["data-providers", "data-sets", "records", "representations",
      "assignments", "topologies", "permit", "tasks", ""], Url.IsPlain word := by decide
  simp only [List.forall_mem_cons] at hwords
  cases r <;> simp [way, IsPlain, identifiers, hwords]

theorem way_eq_cons (r : Resource) : ∃ first rest, r.way = first :: rest ∧ first ≠ "" := by
  cases r <;> exact ⟨_, _, rfl, by decide⟩

theorem way_eq_concat (r : Resource) : ∃ before, r.way = before ++ [""] := by
  refine ⟨r.way.dropLast, ?_⟩
  cases r <;> rfl

def address (base : Url) (r : Resource) : Url := Http.told (base.join r.way)

end Resource

/-! ## Addresses -/

namespace Url

variable {base : Url} {r r' : Resource}

theorem address_eq (base : Url) (r : Resource) :
    r.address base = { Http.told base with path := (base.join r.way).path } :=
  Http.told_withPath base (base.join r.way).path

theorem continues_address_iff (hbase : base.IsWeb) :
    Continues base (r.address base) r.way ↔ r.IsPlain := by
  obtain ⟨parts, hpath⟩ := hbase.path
  obtain ⟨first, rest, hway, hfirst⟩ := r.way_eq_cons
  have hjoin := @continues_join_iff base parts first rest hpath (scheme_ne_file hbase.isHttp) hfirst
  rw [← hway, r.forall_way_iff] at hjoin
  rw [address_eq]
  exact hjoin

theorem resource_of_path_text (hbase : base.IsWeb) (hr : r.IsPlain) (hr' : r'.IsPlain)
    (h : (base.join r.way).path.text = (base.join r'.way).path.text) : r = r' := by
  obtain ⟨parts, hpath⟩ := hbase.path
  obtain ⟨first, rest, hway, hfirst⟩ := r.way_eq_cons
  obtain ⟨first', rest', hway', hfirst'⟩ := r'.way_eq_cons
  rw [← r.forall_way_iff, hway] at hr
  rw [← r'.forall_way_iff, hway'] at hr'
  rw [hway, hway'] at h
  apply Resource.way_injective
  rw [hway, hway']
  exact way_of_path_text hpath (scheme_ne_file hbase.isHttp) hfirst hr hfirst' hr' h

end Url

/-! ## Requests for resources -/

def Repository.Request.resource? : Repository.Request → Option Resource
  | .createDataSet providerId _ => some (.dataSets providerId)
  | .createRepresentation cloudId name _ => some (.representation cloudId name)
  | .assign providerId dataSetId _ => some (.assignments providerId dataSetId)
  | _ => none

def Provision.Request.resource? : Provision.Request → Option (String × Resource)
  | .permitTopology dps topic _ => some (dps, .permission topic)
  | .submitTask dps topic _ _ => some (dps, .tasks topic)
  | _ => none

open Dialogue

theorem Repository.Client.first?_call {α : Type} (c : Repository.Client) (operation : String)
    (q : Http.Request) (read : Http.Answer → Except RemoteError α) :
    (c.call operation q read).first? = (c.http.send (q.withAuth c.login c.password)).first? := by
  unfold Repository.Client.call Repository.Client.send
  cases c.http.send (q.withAuth c.login c.password) with
  | done answer => cases answer <;> rfl
  | ask request next => rfl

namespace Provision.Services

variable {s : Provision.Services} {dps topic : String} {base : Url} {user : Credentials}

theorem first?_send (operation : String) (accepted : List Nat) (q : Http.Request) :
    (s.send operation accepted q).first? = (s.http.send q).first? := by
  unfold Provision.Services.send
  cases s.http.send q with
  | done answer => cases answer <;> rfl
  | ask request next => rfl

theorem topologyUrl_eq (hbase : Url.ofText (withScheme dps) = .ok base) (topic action : String) :
    topologyUrl dps topic action = .ok (base.join ["topologies", topic, action, ""]) := by
  unfold topologyUrl
  generalize Url.ofText (withScheme dps) = read at hbase
  subst hbase
  rfl

theorem first?_permitTopology {url : Url} (h : topologyUrl dps topic "permit" = .ok url) :
    (s.permitTopology dps topic user).first? =
      (s.http.send (((Http.Request.of "POST" url).withAuth user.login user.password).withForm
        [("username", user.login)])).first? := by
  unfold permitTopology
  generalize topologyUrl dps topic "permit" = read at h
  subst h
  exact (first?_bind_done _ _).trans (first?_send _ _ _)

theorem first?_submitTask {message : TaskMessage} {url : Url}
    (h : topologyUrl dps topic "tasks" = .ok url) :
    (s.submitTask dps topic message user).first? =
      (s.http.send (((Http.Request.of "POST" url).withAuth user.login user.password).withJson
        message.toJson)).first? := by
  unfold submitTask
  generalize topologyUrl dps topic "tasks" = read at h
  subst h
  exact (first?_bind_done _ _).trans (first?_send _ _ _)

end Provision.Services

/-- What is sent first for a resource below the root of a service. -/
inductive FirstSent : Http.Client → Url → Resource → World.Request → Prop
  | repository {config : ImportConfig} {c : Repository.Client} {q : Repository.Request}
      {r : Resource} {sent : World.Request} :
      Repository.Client.build config = .ok c → q.resource? = some r →
      (c.answer q).first? = some sent → FirstSent c.http c.content r sent
  | dispatch {s : Provision.Services} {q : Provision.Request} {dps : String} {base : Url}
      {r : Resource} {sent : World.Request} :
      q.resource? = some (dps, r) → Url.ofText (Provision.withScheme dps) = .ok base →
      (s.answer q).first? = some sent → FirstSent s.http base r sent

namespace FirstSent

variable {http : Http.Client} {base : Url} {r r' : Resource} {sent sent' : World.Request}

theorem exists_base (h : FirstSent http base r sent) : ∃ text, Url.ofText text = .ok base := by
  cases h with
  | @repository config _ _ _ _ hbuild =>
      obtain ⟨identity, -, hbuild⟩ := bind_eq_ok_iff.1 hbuild
      obtain ⟨content, hcontent, hbuild⟩ := bind_eq_ok_iff.1 hbuild
      obtain ⟨http, -, hbuild⟩ := bind_eq_ok_iff.1 hbuild
      cases hbuild
      refine ⟨Repository.serviceText config.endPoint config.contentService, ?_⟩
      unfold Repository.serviceUrl at hcontent
      dsimp only at hcontent
      cases hread : Url.ofText (Repository.serviceText config.endPoint config.contentService) with
      | error problem =>
          rw [hread] at hcontent
          cases hcontent
      | ok url =>
          rw [hread] at hcontent
          cases hcontent
          rfl
  | dispatch _ hbase => exact ⟨_, hbase⟩

/-- Every request for a resource begins as an HTTP request for its address. -/
theorem exists_send (h : FirstSent http base r sent) :
    ∃ q : Http.Request, q.url = (Http.Request.of "POST" (base.join r.way)).url ∧
      (http.send q).first? = some sent := by
  cases h with
  | @repository _ c q _ _ _ hresource hfirst =>
      cases q with
      | createDataSet | createRepresentation | assign =>
          cases hresource
          refine ⟨_, ?_, (c.first?_call _ _ _).symm.trans hfirst⟩
          rfl
      | createProvider | createCloudId | getCloudId | addFile | persist => cases hresource
  | @dispatch s q dps _ _ _ hresource hbase hfirst =>
      cases q with
      | permitTopology _ topic user =>
          cases hresource
          have hsent : (s.permitTopology dps topic user).first? = some sent := hfirst
          have hurl := Provision.Services.topologyUrl_eq hbase topic "permit"
          refine ⟨_, ?_, (Provision.Services.first?_permitTopology hurl).symm.trans hsent⟩
          rfl
      | submitTask _ topic message user =>
          cases hresource
          have hsent : (s.submitTask dps topic message user).first? = some sent := hfirst
          have hurl := Provision.Services.topologyUrl_eq hbase topic "tasks"
          refine ⟨_, ?_, (Provision.Services.first?_submitTask hurl).symm.trans hsent⟩
          rfl
      | createSearchCore | putIndexMapping | createTopic | submitTopology => cases hresource

theorem isWeb (h : FirstSent http base r sent) : base.IsWeb := by
  obtain ⟨text, hbase⟩ := h.exists_base
  obtain ⟨q, hurl, hfirst⟩ := h.exists_send
  have hhttp : q.url.isHttp = true := Http.Client.isHttp_of_first? hfirst
  rw [hurl, Http.isHttp_of] at hhttp
  exact Url.isWeb_ofText hbase hhttp

theorem isFor (h : FirstSent http base r sent) :
    Http.IsFor http (r.address base) sent := by
  obtain ⟨q, hurl, hfirst⟩ := h.exists_send
  obtain ⟨parts, hpath⟩ := h.isWeb.path
  obtain ⟨before, hway⟩ := r.way_eq_concat
  have htext : q.url.path.text ≠ "" := by
    rw [hurl, Http.path_of, hway]
    exact Url.path_join_text_ne_empty hpath (Url.scheme_ne_file h.isWeb.isHttp) before
  have hauthority : ∃ a, q.url.authority = some a := by
    rw [hurl]
    exact Http.authority_of h.isWeb.authority
  have hsent := Http.Client.isFor_of_first? hfirst hauthority htext
  rw [hurl] at hsent
  exact hsent

/-- What is sent first tells plain resources apart. -/
theorem resource_eq (h : FirstSent http base r sent) (h' : FirstSent http base r' sent')
    (hr : r.IsPlain) (hr' : r'.IsPlain) {u : Url} (hu : Http.IsFor http u sent)
    (hu' : Http.IsFor http u sent') : r = r' := by
  have hroute : ∀ {u u' : Url} {x : World.Request}, Http.IsFor http u x → Http.IsFor http u' x →
      http.route u = http.route u' := by
    intro u u' x hx hx'
    cases x with
    | exchange connection m => exact hx.symm.trans hx'
    | _ => cases hx
  have hsame : http.route (r.address base) = http.route (r'.address base) :=
    (hroute h.isFor hu).trans (hroute hu' h'.isFor)
  rw [Url.address_eq, Url.address_eq] at hsame
  exact Url.resource_of_path_text h.isWeb hr hr' (Http.path_of_route hsame)

end FirstSent

/-- A request for a resource goes to an address below the root of its service.  The path there is
the documented one, with the identifiers to be read back from it, exactly if these are plain; and
resources with plain identifiers have addresses of their own. -/
theorem resources_told_apart {http : Http.Client} {base : Url} {r : Resource}
    {sent : World.Request} (h : FirstSent http base r sent) :
    Http.IsFor http (r.address base) sent ∧
      (Url.Continues base (r.address base) r.way ↔ r.IsPlain) ∧
      ∀ r' sent', FirstSent http base r' sent' → r.IsPlain → r'.IsPlain →
        ∀ u, Http.IsFor http u sent → Http.IsFor http u sent' → r = r' := by
  refine ⟨h.isFor, Url.continues_address_iff h.isWeb, ?_⟩
  intro r' sent' h' hr hr' u hu hu'
  exact h.resource_eq h' hr hr' hu hu'

/-! ## Samples -/

def smallConfig : ImportConfig :=
  ⟨"http://h", "uis", "mcs", "", "", none, false, none, false, none, [], [], [], []⟩

def smallClient : Repository.Client :=
  ⟨⟨none⟩, ⟨"http", some ⟨"", none, .domain "h", none⟩, .segments ["uis"], none, none⟩,
    ⟨"http", some ⟨"", none, .domain "h", none⟩, .segments ["mcs"], none, none⟩, "", ""⟩

theorem build_smallConfig : Repository.Client.build smallConfig = .ok smallClient :=
  toOption_eq_some_iff.1 (by decide +kernel)

theorem exists_firstSent_of_isSome {name : String}
    (h : (smallClient.answer (.createRepresentation "C" name "p")).first?.isSome = true) :
    ∃ sent, (smallClient.answer (.createRepresentation "C" name "p")).first? = some sent ∧
      FirstSent smallClient.http smallClient.content (.representation "C" name) sent := by
  obtain ⟨sent, hsent⟩ := Option.isSome_iff_exists.1 h
  exact ⟨sent, hsent, .repository build_smallConfig rfl hsent⟩

/-- Slashes, percent signs and letters of other scripts keep their meaning. -/
theorem resources_told_apart_slash :
    ∃ sent sent', FirstSent smallClient.http smallClient.content
        (.representation "C" "a/b %2F..é") sent ∧
      FirstSent smallClient.http smallClient.content (.representation "C" "a%2Fb") sent' ∧
      Url.Continues smallClient.content
        ((Resource.representation "C" "a/b %2F..é").address smallClient.content)
        (Resource.representation "C" "a/b %2F..é").way ∧
      ∀ u, ¬(Http.IsFor smallClient.http u sent ∧ Http.IsFor smallClient.http u sent') := by
  obtain ⟨sent, -, h⟩ := exists_firstSent_of_isSome
    (by decide +kernel : (smallClient.answer
      (.createRepresentation "C" "a/b %2F..é" "p")).first?.isSome = true)
  obtain ⟨sent', -, h'⟩ := exists_firstSent_of_isSome
    (by decide +kernel : (smallClient.answer
      (.createRepresentation "C" "a%2Fb" "p")).first?.isSome = true)
  have hplain : (Resource.representation "C" "a/b %2F..é").IsPlain := by decide
  have hplain' : (Resource.representation "C" "a%2Fb").IsPlain := by decide
  obtain ⟨-, hcontinues, hapart⟩ := resources_told_apart h
  refine ⟨sent, sent', h, h', hcontinues.2 hplain, ?_⟩
  rintro u ⟨hu, hu'⟩
  exact absurd (hapart _ _ h' hplain hplain' u hu hu') (by decide)

/-- A tab in a name is lost, and the representation takes the place of another one. -/
theorem resources_confused_by_tab :
    ∃ sent, FirstSent smallClient.http smallClient.content (.representation "C" "a\tb") sent ∧
      FirstSent smallClient.http smallClient.content (.representation "C" "ab") sent ∧
      ¬Url.Continues smallClient.content
        ((Resource.representation "C" "a\tb").address smallClient.content)
        (Resource.representation "C" "a\tb").way := by
  have hsame : (smallClient.answer (.createRepresentation "C" "a\tb" "p")).first? =
      (smallClient.answer (.createRepresentation "C" "ab" "p")).first? := by decide +kernel
  have hnot : ¬(Resource.representation "C" "a\tb").IsPlain := by decide
  obtain ⟨sent, hsent, h⟩ := exists_firstSent_of_isSome
    (by decide +kernel : (smallClient.answer
      (.createRepresentation "C" "a\tb" "p")).first?.isSome = true)
  have h' : FirstSent smallClient.http smallClient.content (.representation "C" "ab") sent :=
    .repository build_smallConfig rfl (hsame.symm.trans hsent)
  exact ⟨sent, h, h', mt (Url.continues_address_iff h.isWeb).1 hnot⟩

end Ingest
