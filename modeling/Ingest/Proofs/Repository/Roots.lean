import Ingest.Proofs.Result
import Ingest.Proofs.Text.Trimming
import Ingest.Repository.Client
/-!
# Roots of services

The address of a service is that of its end point and its path with one slash between them, however
many slashes stand at the end of the one and around the other.  So clients of configurations that
differ in such slashes only ask for the same things at the same addresses.
-/

namespace Ingest

def slashes (n : Nat) : String := String.ofList (List.replicate n '/')

/-- The numbers of slashes put behind the end point and around the paths of both services. -/
structure Padding where
  endPoint : Nat
  beforeIdentity : Nat
  afterIdentity : Nat
  beforeContent : Nat
  afterContent : Nat

def ImportConfig.padded (c : ImportConfig) (p : Padding) : ImportConfig :=
  { c with
    endPoint := c.endPoint ++ slashes p.endPoint
    identityService := slashes p.beforeIdentity ++ c.identityService ++ slashes p.afterIdentity
    contentService := slashes p.beforeContent ++ c.contentService ++ slashes p.afterContent }

/-! ## Slashes -/

theorem isSlash_of_mem_slashes (n : Nat) :
    ∀ c ∈ (slashes n).toList, decide (c = '/') = true := by
  intro c hc
  rw [slashes, String.toList_ofList] at hc
  exact decide_eq_true (List.eq_of_mem_replicate hc)

theorem eq_slashes {s : String} (h : ∀ c ∈ s.toList, decide (c = '/') = true) :
    ∃ n, s = slashes n := by
  refine ⟨s.toList.length, ?_⟩
  have hall : s.toList = List.replicate s.toList.length '/' :=
    List.eq_replicate_of_mem fun c hc => of_decide_eq_true (h c hc)
  rw [slashes, ← hall, String.ofList_toList]

namespace Repository

/-! ## Addresses of services -/

theorem serviceText_padded (endPoint service : String) (i j k : Nat) :
    serviceText (endPoint ++ slashes k) (slashes i ++ service ++ slashes j) =
      serviceText endPoint service := by
  rw [serviceText, Text.trimEndWhile_append _ (isSlash_of_mem_slashes k),
    Text.trimWhile_append _ (isSlash_of_mem_slashes j),
    Text.trimWhile_prepend _ (isSlash_of_mem_slashes i), serviceText]

theorem serviceUrl_padded (endPoint service : String) (i j k : Nat) :
    serviceUrl (endPoint ++ slashes k) (slashes i ++ service ++ slashes j) =
      serviceUrl endPoint service := by
  rw [serviceUrl, serviceText_padded, serviceUrl]

structure IsBare (root path : String) : Prop where
  root_end : root.toList.getLast? ≠ some '/'
  path_start : path.toList.head? ≠ some '/'
  path_end : path.toList.getLast? ≠ some '/'

/-- Any end point and path are bare ones with slashes put to them, and the bare ones are joined. -/
theorem exists_bare (endPoint service : String) :
    ∃ (root path : String) (a b c : Nat), IsBare root path ∧ endPoint = root ++ slashes a ∧
      service = slashes b ++ path ++ slashes c ∧
        serviceText endPoint service = root ++ "/" ++ path := by
  obtain ⟨after, hafter, hendPoint⟩ := Text.exists_after (· = '/') endPoint
  obtain ⟨front, back, hfront, hback, hservice⟩ := Text.exists_around (· = '/') service
  obtain ⟨a, rfl⟩ := eq_slashes hafter
  obtain ⟨b, rfl⟩ := eq_slashes hfront
  obtain ⟨c, rfl⟩ := eq_slashes hback
  refine ⟨_, _, a, b, c, ⟨?_, ?_, ?_⟩, hendPoint, hservice, rfl⟩
  · intro hlast
    exact absurd (Text.getLast?_trimEndWhile hlast) (by decide)
  · intro hfirst
    exact absurd (Text.head?_trimWhile hfirst) (by decide)
  · intro hlast
    exact absurd (Text.getLast?_trimWhile hlast) (by decide)

/-! ## Clients -/

namespace Client

theorem build_padded (config : ImportConfig) (p : Padding) :
    build (config.padded p) = build config := by
  have hidentity := serviceUrl_padded config.endPoint config.identityService p.beforeIdentity
    p.afterIdentity p.endPoint
  have hcontent := serviceUrl_padded config.endPoint config.contentService p.beforeContent
    p.afterContent p.endPoint
  rw [build, build, ImportConfig.padded, hidentity, hcontent]

/-- Slashes behind the end point and around the path of a service change nothing about its address,
which has one slash between the two, nor about what a client does. -/
theorem build_ignores_slashes :
    (∀ (endPoint service : String) (i j k : Nat),
      serviceUrl (endPoint ++ slashes k) (slashes i ++ service ++ slashes j) =
        serviceUrl endPoint service) ∧
    (∀ endPoint service : String, ∃ (root path : String) (a b c : Nat),
      IsBare root path ∧ endPoint = root ++ slashes a ∧
        service = slashes b ++ path ++ slashes c ∧
        serviceUrl endPoint service =
          (Url.ofText (root ++ "/" ++ path)).mapError (.serviceUrl (root ++ "/" ++ path))) ∧
    ∀ (config : ImportConfig) (p q : Padding),
      (∃ problem, build (config.padded p) = .error problem ∧
        build (config.padded q) = .error problem) ∨
      ∃ client client', build (config.padded p) = .ok client ∧
        build (config.padded q) = .ok client' ∧
        ∀ {α σ : Type} (d : RepositoryDialogue α) (peer : Peer World.Request World.Reply σ) (s : σ),
          (client.carryOut d).run peer s = (client'.carryOut d).run peer s := by
  refine ⟨serviceUrl_padded, ?_, ?_⟩
  · intro endPoint service
    obtain ⟨root, path, a, b, c, hbare, hendPoint, hservice, htext⟩ := exists_bare endPoint service
    refine ⟨root, path, a, b, c, hbare, hendPoint, hservice, ?_⟩
    rw [serviceUrl, htext]
  · intro config p q
    rw [build_padded, build_padded]
    cases hbuild : build config with
    | error problem => exact .inl ⟨problem, rfl, rfl⟩
    | ok client => exact .inr ⟨client, client, rfl, rfl, fun d peer s => rfl⟩

end Client

end Repository

end Ingest
