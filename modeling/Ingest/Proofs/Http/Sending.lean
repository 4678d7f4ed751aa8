import Ingest.Http.Client
import Ingest.Proofs.Dialogue.Conduct
/-!
# Where a request is sent first

A request for a web address goes to the server that the address names, or to a proxy, and the
message tells the path and the query of the address as they stand.  So the messages for two
addresses that differ in their paths alone differ in their targets.
-/

namespace Ingest

/-! ## Web addresses -/

namespace Url

structure IsWeb (u : Url) : Prop where
  isHttp : u.isHttp = true
  authority : ∃ a, u.authority = some a
  path : ∃ parts, u.path = .segments parts

theorem isSpecial_of_isHttp {u : Url} (h : u.isHttp = true) : isSpecial u.scheme = true := by
  simp only [isHttp, Bool.or_eq_true, decide_eq_true_eq] at h
  rcases h with h | h <;> rw [h] <;> decide

theorem scheme_ne_file {u : Url} (h : u.isHttp = true) : u.scheme ≠ "file" := by
  intro hfile
  rw [isHttp, hfile] at h
  exact absurd h (by decide)

theorem isWeb_assemble {scheme : String} {a : Authority} {cs : List Char}
    (h : (assemble scheme (some a) cs).isHttp = true) : (assemble scheme (some a) cs).IsWeb := by
  refine ⟨h, ⟨a, rfl⟩, ?_⟩
  unfold assemble Path.ofParts
  dsimp only
  split
  · exact ⟨_, rfl⟩
  · exact ⟨_, rfl⟩

theorem assemble_of_readAfterSlashes {scheme : String} {cs : List Char} {u : Url}
    (h : readAfterSlashes scheme cs = .ok u) : ∃ a left, u = assemble scheme (some a) left := by
  unfold readAfterSlashes at h
  dsimp only at h
  cases hread : readAuthority scheme (cs.takeWhile (!endsAuthority (isSpecial scheme) ·))
      (cs.dropWhile (!endsAuthority (isSpecial scheme) ·)).isEmpty with
  | error problem =>
      rw [hread] at h
      cases h
  | ok read =>
      rw [hread] at h
      cases h
      exact ⟨read.1, _, rfl⟩

theorem scheme_of_readFile {raw cs : List Char} {u : Url} (h : readFile raw cs = .ok u) :
    u.scheme = "file" := by
  unfold readFile at h
  split at h
  · dsimp only at h
    split at h
    · cases h
      rfl
    · cases hhost : readFileHost ((cs.drop 2).takeWhile (!endsAuthority true ·)) with
      | error problem =>
          rw [hhost] at h
          cases h
      | ok host =>
          rw [hhost] at h
          cases h
          rfl
  · cases h
    rfl

theorem scheme_of_readOther {scheme : String} {cs : List Char} {u : Url}
    (h : readOther scheme cs = .ok u) : u.scheme = scheme := by
  unfold readOther at h
  split at h
  · obtain ⟨a, left, rfl⟩ := assemble_of_readAfterSlashes h
    rfl
  · cases h
    rfl
  · cases h
    rfl

/-- A URL of the web is read from what follows two slashes. -/
theorem readAfterSlashes_of_ofText {s : String} {u : Url} (h : ofText s = .ok u)
    (hhttp : u.isHttp = true) : ∃ cs, readAfterSlashes u.scheme cs = .ok u := by
  unfold ofText at h
  split at h
  · rename_i scheme rest _
    unfold readAfterScheme at h
    split at h
    · exact absurd (scheme_of_readFile h) (scheme_ne_file hhttp)
    · split at h
      · obtain ⟨a, left, rfl⟩ := assemble_of_readAfterSlashes h
        exact ⟨_, h⟩
      · rename_i hother
        have hscheme := isSpecial_of_isHttp hhttp
        rw [scheme_of_readOther h] at hscheme
        exact absurd hscheme hother
  · cases h

theorem isWeb_ofText {s : String} {u : Url} (h : ofText s = .ok u) (hhttp : u.isHttp = true) :
    u.IsWeb := by
  obtain ⟨cs, hread⟩ := readAfterSlashes_of_ofText h hhttp
  obtain ⟨a, left, hassembled⟩ := assemble_of_readAfterSlashes hread
  rw [hassembled] at hhttp ⊢
  exact isWeb_assemble hhttp

end Url

/-! ## Messages -/

namespace Http

def IsFor (c : Client) (u : Url) : World.Request → Prop
  | .exchange connection m => (connection, m.target) = c.route u
  | _ => False

/-- What a message tells of a URL: neither its user nor its fragment. -/
def told (u : Url) : Url := (Request.of "POST" u).url.withoutFragment

theorem url_of (method : String) (u : Url) :
    (Request.of method u).url = u ∨ (Request.of method u).url = u.withoutUser := by
  unfold Request.of
  cases u.user? with
  | none => exact .inl rfl
  | some user => exact .inr rfl

theorem isHttp_of (method : String) (u : Url) :
    (Request.of method u).url.isHttp = u.isHttp := by
  rcases url_of method u with h | h
  · rw [h]
  · rw [h]
    rfl

theorem path_of (method : String) (u : Url) : (Request.of method u).url.path = u.path := by
  rcases url_of method u with h | h
  · rw [h]
  · rw [h]
    rfl

theorem authority_of {method : String} {u : Url} (h : ∃ a, u.authority = some a) :
    ∃ a, (Request.of method u).url.authority = some a := by
  obtain ⟨a, ha⟩ := h
  rcases url_of method u with heq | heq <;> rw [heq]
  · exact ⟨a, ha⟩
  · exact ⟨_, congrArg (Option.map _) ha⟩

theorem told_withPath (u : Url) (path : Url.Path) :
    told { u with path := path } = { told u with path := path } := by
  have huser : ({ u with path := path } : Url).user? = u.user? := rfl
  unfold told Request.of
  rw [huser]
  cases u.user? <;> rfl

theorem path_of_target {u : Url} {path path' : Url.Path}
    (h : Url.target { u with path := path } = Url.target { u with path := path' }) :
    path.text = path'.text := by
  unfold Url.target at h
  exact (String.append_left_inj _).1 h

theorem path_of_text {u : Url} {path path' : Url.Path}
    (h : Url.text { u with path := path } = Url.text { u with path := path' }) :
    path.text = path'.text := by
  unfold Url.text at h
  exact path_of_target ((String.append_right_inj _).1 ((String.append_left_inj _).1 h))

theorem path_of_route {c : Client} {u : Url} {path path' : Url.Path}
    (h : c.route { u with path := path } = c.route { u with path := path' }) :
    path.text = path'.text := by
  have hhost : Url.hostName { u with path := path } = Url.hostName { u with path := path' } := rfl
  unfold Client.route at h
  dsimp only at h
  cases hproxy : c.proxy with
  | none =>
      rw [hproxy] at h
      exact path_of_target (Prod.mk.inj h).2
  | some proxy =>
      rw [hproxy] at h
      dsimp only at h
      rw [hhost] at h
      split at h
      · exact path_of_target (Prod.mk.inj h).2
      · split at h
        · exact path_of_target (Prod.mk.inj h).2
        · exact @path_of_text u.withoutFragment _ _ (Prod.mk.inj h).2

theorem Client.comingFrom_self (r : Request) : comingFrom r.url r = r := if_pos rfl

theorem Client.first?_sendFrom (c : Client) (first : Url) (redirects : Nat) (r : Request) :
    (c.sendFrom first redirects r.url r).first? =
      some (.exchange (c.message r).1 (c.message r).2) := by
  unfold Client.sendFrom
  rw [comingFrom_self]
  rfl

theorem isFor_message (c : Client) (r : Request) :
    IsFor c r.url (.exchange (c.message r).1 (c.message r).2) := rfl

theorem address_eq {u address : Url} (h : addressOf? u = some address)
    (hauthority : ∃ a, u.authority = some a) (hpath : u.path.text ≠ "") :
    address = u.withoutFragment := by
  obtain ⟨a, ha⟩ := hauthority
  unfold addressOf? at h
  split at h
  · cases h
  · rw [ha] at h
    dsimp only at h
    split at h
    · have hnot : u.path.text.isEmpty = false := by simpa using hpath
      rw [hnot] at h
      exact (Option.some.inj h).symm
    · cases h

/-- Only requests for addresses of the web are sent at all. -/
theorem Client.isHttp_of_first? {c : Client} {r : Request} {sent : World.Request}
    (h : (c.send r).first? = some sent) : r.url.isHttp = true := by
  unfold Client.send at h
  split at h
  · rename_i haddress
    split at haddress
    · assumption
    · cases haddress
  · cases h

/-- What is sent first for a request is about its address. -/
theorem Client.isFor_of_first? {c : Client} {r : Request} {sent : World.Request}
    (h : (c.send r).first? = some sent) (hauthority : ∃ a, r.url.authority = some a)
    (hpath : r.url.path.text ≠ "") : IsFor c r.url.withoutFragment sent := by
  have hhttp := isHttp_of_first? h
  unfold Client.send at h
  rw [hhttp, if_pos rfl] at h
  cases haddress : addressOf? r.url with
  | none =>
      rw [haddress] at h
      cases h
  | some address =>
      rw [haddress] at h
      have hfirst := Client.first?_sendFrom c r.url maxRedirects { r with url := address }
      rw [hfirst] at h
      cases h
      rw [← address_eq haddress hauthority hpath]
      exact isFor_message c { r with url := address }

end Http

end Ingest
