import Mathlib.Data.List.TakeWhile
import Ingest.Proofs.Config.Acceptance
import Ingest.Proofs.Http.Sending
import Ingest.Proofs.Url.Hosts
/-!
# Proxies as they are used

A proxy is checked to be a host, a colon and a port number, and used as the address that its text
makes behind the scheme of the web.  The two agree if the text before the colon is a host and the
number is written in digits alone.
-/

namespace Ingest

namespace Proxy

open Url

/-! ## The parts of a proxy -/

def hostPart (p : String) : List Char := p.toList.takeWhile (· ≠ ':')

def portPart (p : String) : List Char := (p.toList.dropWhile (· ≠ ':')).drop 1

/-- The digits of a port, which may stand behind a plus sign. -/
def portDigits : List Char → List Char
  | '+' :: rest => rest
  | cs => cs

def portNumber (p : String) : Nat :=
  (portDigits (portPart p)).foldl (fun n d => n * 10 + (d.toNat - 48)) 0

def IsAccepted (p : String) : Prop :=
  (∃ c : ImportConfig, c.proxy = some p ∧ c.validate = .ok ()) ∨
    ∃ c : DeployConfig, c.proxy = some p ∧ c.validate = .ok ()

structure IsHostAndPort (p : String) : Prop where
  parts : p.toList = hostPart p ++ ':' :: portPart p
  host_ne_nil : hostPart p ≠ []
  digits_ne_nil : portDigits (portPart p) ≠ []
  digits : ∀ c ∈ portDigits (portPart p), c.isDigit = true
  number_lt : portNumber p < 65536

theorem portDigits_of_not_plus {cs : List Char} (h : ∀ rest, cs ≠ '+' :: rest) :
    portDigits cs = cs := by
  unfold portDigits
  split
  · rename_i rest
    exact absurd rfl (h rest)
  · rfl

theorem isPort_iff {cs : List Char} :
    isPort cs = true ↔ portDigits cs ≠ [] ∧ (∀ c ∈ portDigits cs, c.isDigit = true) ∧
      (portDigits cs).foldl (fun n d => n * 10 + (d.toNat - 48)) 0 < 65536 := by
  have hport : isPort cs = (!(portDigits cs).isEmpty && (portDigits cs).all Char.isDigit &&
      decide ((portDigits cs).foldl (fun n d => n * 10 + (d.toNat - 48)) 0 < 65536)) := by
    unfold isPort
    split
    · rfl
    · rename_i hplus
      rw [portDigits_of_not_plus hplus]
  simp only [hport, Bool.and_eq_true, Bool.not_eq_true', List.isEmpty_eq_false_iff,
    List.all_eq_true, decide_eq_true_eq, and_assoc]

theorem isHostAndPort_of_isWellFormed {p : String} (h : isWellFormed p = true) :
    IsHostAndPort p := by
  unfold isWellFormed at h
  dsimp only at h
  split at h
  · rename_i mark port hdrop
    have hmark : mark = ':' := by
      have hhead := List.head?_dropWhile_not (· ≠ ':') p.toList
      rw [hdrop] at hhead
      simpa using hhead
    subst hmark
    have hpart : portPart p = port := by
      unfold portPart
      rw [hdrop]
      rfl
    rw [Bool.and_eq_true, isPort_iff, Bool.not_eq_true', List.isEmpty_eq_false_iff] at h
    obtain ⟨hhost, hne, hdigits, hlt⟩ := h
    exact
      { parts := by
          rw [hpart, ← hdrop]
          exact List.takeWhile_append_dropWhile.symm
        host_ne_nil := hhost
        digits_ne_nil := hpart ▸ hne
        digits := hpart ▸ hdigits
        number_lt := by
          rw [portNumber, hpart]
          exact hlt }
  · cases h

theorem isWellFormed_of_check {p : String} (h : check (some p) = .ok ()) :
    isWellFormed p = true := by
  cases hwell : isWellFormed p with
  | true => rfl
  | false =>
    rw [check, hwell] at h
    cases h

theorem isWellFormed_of_isAccepted {p : String} (h : IsAccepted p) : isWellFormed p = true := by
  apply isWellFormed_of_check
  rcases h with ⟨c, hproxy, hvalid⟩ | ⟨c, hproxy, hvalid⟩
  · rw [← hproxy]
    obtain ⟨-, -, -, -, hcheck, -⟩ := ImportConfig.validate_ok_iff.1 hvalid
    exact hcheck
  · rw [← hproxy]
    obtain ⟨_, hcheck, -⟩ := bind_eq_ok_iff.1 hvalid
    exact hcheck

/-- The proxies that configurations are accepted with are those that pass the check. -/
theorem isAccepted_iff {p : String} : IsAccepted p ↔ isWellFormed p = true := by
  constructor
  · exact isWellFormed_of_isAccepted
  · intro h
    refine .inr ⟨⟨none, none, none, none, none, none, none, none, [], none, [], none, none, some p⟩,
      rfl, ?_⟩
    have hcheck : check (some p) = .ok () := if_pos h
    rw [DeployConfig.validate, hcheck]
    rfl

/-! ## The address of a proxy -/

/-- The address is the proxy as it is written: its host is the text before the colon, its port is
the number behind it, and there is nothing else in it. -/
structure IsAsWritten (p : String) (u : Url) : Prop where
  scheme : u.scheme = "http"
  authority : ∃ host port, u.authority = some ⟨"", none, host, port⟩ ∧
    readWebHost (hostPart p) = .ok host
  port : u.portNumber = some (portNumber p)
  path : u.path = .segments [""]
  query : u.query = none
  fragment : u.fragment = none

def IsUsable (p : String) : Prop :=
  ∃ u, Url.ofText ("http://" ++ p) = .ok u ∧ IsAsWritten p u

/-! ### Reading the address -/

theorem inner_http {p : String} {last : Char} (hlast : p.toList.getLast? = some last)
    (hvisible : 0x20 < last.toNat) : Url.inner ("http://" ++ p) = "http://".toList ++ p.toList := by
  obtain ⟨before, hbefore⟩ := List.getLast?_eq_some_iff.1 hlast
  have hreverse :
      ("http://" ++ p).toList.reverse = last :: ("http://".toList ++ before).reverse := by
    simp [hbefore]
  have hstart : ("http://" ++ p).toList.dropWhile (·.toNat ≤ 0x20) = ("http://" ++ p).toList := by
    rw [String.toList_append]
    rfl
  rw [Url.inner, Text.trimWhile, String.toList_ofList, hstart, hreverse,
    List.dropWhile_cons_of_neg (by simpa using hvisible), ← hreverse, List.reverse_reverse,
    String.toList_append]

theorem hostLength_of_plain {host rest : List Char} (hcolon : ':' ∉ host) (hopen : '[' ∉ host) :
    hostLength false (host ++ ':' :: rest) = host.length := by
  induction host with
  | nil => rfl
  | cons c host ih =>
    rw [List.mem_cons, not_or] at hcolon hopen
    have hc : c ≠ ':' := Ne.symm hcolon.1
    have hc' : c ≠ '[' := Ne.symm hopen.1
    simp [hostLength, hc, hc', ih hcolon.2 hopen.2]

theorem splitLast_of_not_mem {mark : Char} {cs : List Char} (h : mark ∉ cs) :
    splitLast mark cs = none := by
  have hdrop : cs.reverse.dropWhile (· ≠ mark) = [] := by
    rw [List.dropWhile_eq_nil_iff]
    intro c hc
    simp only [ne_eq, decide_eq_true_eq]
    rintro rfl
    exact h (List.mem_reverse.1 hc)
  rw [splitLast, hdrop]

/-- Without dividers an authority is a host and a port. -/
theorem readAuthority_of_host {host port : List Char} {h : Host} (hcolon : ':' ∉ host)
    (hne : host ≠ []) (hplain : ∀ c ∈ host ++ ':' :: port, isDivider c = false)
    (hhost : readWebHost host = .ok h) :
    readAuthority "http" (host ++ ':' :: port) true =
      (readPort "http" port).map fun (number, left) => (⟨"", none, h, number⟩, left) := by
  have hdivider : ∀ d, isDivider d = true → d ∉ host ++ ':' :: port := by
    intro d hd hmem
    rw [hplain d hmem] at hd
    cases hd
  have hopen : '[' ∉ host := fun hmem => hdivider '[' (by decide) (List.mem_append_left _ hmem)
  have hempty : host.isEmpty = false := List.isEmpty_eq_false_iff.2 hne
  have hspecial : isSpecial "http" = true := by decide
  have hread : readHostAndPort "http" (host ++ ':' :: port) =
      (readPort "http" port).map fun (number, left) => (h, number, left) := by
    rw [readHostAndPort, hostLength_of_plain hcolon hopen]
    simp only [List.take_left, List.drop_left, hempty, hspecial, hhost]
    cases readPort "http" port <;> rfl
  have huser : readUser ((none : Option (List Char)).getD []) = ("", none) := rfl
  rw [readAuthority, splitLast_of_not_mem (hdivider '@' (by decide))]
  simp only [hread, huser]
  cases readPort "http" port with
  | error problem => rfl
  | ok read => simp [Except.map, bind, Except.bind, pure, Except.pure]

theorem plain_of_not_divider {c : Char} (h : isDivider c = false) :
    isPassedOver c = false ∧ endsAuthority true c = false ∧ isSlash c = false := by
  refine ⟨?_, ?_, ?_⟩
  all_goals
    apply Bool.eq_false_iff.2
    intro hc
    apply Bool.eq_false_iff.1 h
    simp only [isPassedOver, endsAuthority, isSlash, Bool.or_eq_true, beq_iff_eq,
      Bool.and_eq_true, true_and] at hc
  · rcases hc with (rfl | rfl) | rfl <;> decide
  · rcases hc with ((rfl | rfl) | rfl) | rfl <;> decide
  · rcases hc with rfl | rfl <;> decide

theorem ofText_http_of_plain {p : String} {last : Char} (hlast : p.toList.getLast? = some last)
    (hvisible : 0x20 < last.toNat) (hplain : ∀ c ∈ p.toList, isDivider c = false) :
    Url.ofText ("http://" ++ p) = (readAuthority "http" p.toList true).map fun (a, left) =>
      assemble "http" (some a) left := by
  have hsignificant :
      significant ("http://".toList ++ p.toList) = "http://".toList ++ p.toList := by
    rw [significant, List.filter_eq_self, List.forall_mem_append]
    refine ⟨List.all_iff_forall_prop.1 (by decide), fun c hc => ?_⟩
    rw [(plain_of_not_divider (hplain c hc)).1]
    rfl
  have hscheme : readScheme ("http://".toList ++ p.toList) =
      some ("http", '/' :: '/' :: p.toList) := rfl
  have hslashes : ('/' :: '/' :: p.toList).dropWhile isSlash = p.toList := by
    cases hp : p.toList with
    | nil => rfl
    | cons c cs =>
      have hc := (plain_of_not_divider (hplain c (hp ▸ List.mem_cons_self))).2.2
      rw [List.dropWhile_cons_of_pos (by decide), List.dropWhile_cons_of_pos (by decide),
        List.dropWhile_cons_of_neg (by simp [hc])]
  have hauthority : ∀ c ∈ p.toList, (!endsAuthority true c) = true := by
    intro c hc
    rw [(plain_of_not_divider (hplain c hc)).2.1]
    rfl
  have hread : readAfterSlashes "http" p.toList =
      (readAuthority "http" p.toList true).map fun (a, left) => assemble "http" (some a) left := by
    have hspecial : isSpecial "http" = true := by decide
    rw [readAfterSlashes, hspecial]
    dsimp only
    rw [List.takeWhile_eq_self_iff.2 hauthority, List.dropWhile_eq_nil_iff.2 hauthority]
    simp only [List.isEmpty_nil, List.append_nil]
    cases readAuthority "http" p.toList true <;> rfl
  rw [Url.ofText, inner_http hlast hvisible, hsignificant, hscheme]
  dsimp only
  rw [readAfterScheme, if_neg (by decide), if_pos (by decide), hslashes, hread]

/-! ### Ports -/

theorem visible_of_isDigit {c : Char} (h : c.isDigit = true) :
    isDivider c = false ∧ 0x20 < c.toNat := by
  constructor
  · have hnot : ∀ d ∈ "\t\n\r #/?@[\\]".toList, d.isDigit = false :=
      List.all_iff_forall_prop.1 (by decide)
    apply Bool.eq_false_iff.2
    intro hdivider
    rw [hnot c (List.contains_iff_mem.1 hdivider)] at h
    cases h
  · simp only [Char.isDigit, Bool.and_eq_true, decide_eq_true_eq] at h
    have hle : 48 ≤ c.toNat := h.1
    omega

theorem portPart_cases (cs : List Char) : cs = portDigits cs ∨ cs = '+' :: portDigits cs := by
  unfold portDigits
  split
  · exact .inr rfl
  · exact .inl rfl

theorem visible_of_mem_portPart {p : String} (hp : IsHostAndPort p) {c : Char}
    (hc : c ∈ portPart p) : isDivider c = false ∧ 0x20 < c.toNat := by
  rcases portPart_cases (portPart p) with hdigits | hdigits
  · rw [hdigits] at hc
    exact visible_of_isDigit (hp.digits c hc)
  · rw [hdigits, List.mem_cons] at hc
    rcases hc with rfl | hc
    · decide
    · exact visible_of_isDigit (hp.digits c hc)

theorem portPart_ne_nil {p : String} (hp : IsHostAndPort p) : portPart p ≠ [] := by
  intro hnil
  apply hp.digits_ne_nil
  rw [hnil]
  rfl

/-- Digits alone are read as the number that they write, which is left out where it is usual. -/
theorem readPort_of_digits {cs : List Char} (hdigits : ∀ c ∈ cs, c.isDigit = true)
    (hne : cs ≠ []) (hlt : cs.foldl (fun n d => n * 10 + (d.toNat - 48)) 0 < 65536) :
    ∃ port, readPort "http" cs = .ok (port, []) ∧
      (port <|> some 80) = some (cs.foldl (fun n d => n * 10 + (d.toNat - 48)) 0) := by
  have hempty : cs.isEmpty = false := List.isEmpty_eq_false_iff.2 hne
  have husual : defaultPort? "http" = some 80 := by decide
  rw [readPort, List.takeWhile_eq_self_iff.2 hdigits, List.dropWhile_eq_nil_iff.2 hdigits]
  generalize cs.foldl (fun n d => n * 10 + (d.toNat - 48)) 0 = n at hlt ⊢
  rw [if_neg (by simpa using hlt), hempty, husual]
  by_cases hn : n = 80
  · subst hn
    exact ⟨none, rfl, rfl⟩
  · refine ⟨some n, ?_, rfl⟩
    rw [if_neg (by simpa using Ne.symm hn)]

/-- A plus sign is no part of the port of an address. -/
theorem readPort_plus (cs : List Char) : readPort "http" ('+' :: cs) = .error .badPort := by
  have htake : ('+' :: cs).takeWhile Char.isDigit = [] := List.takeWhile_cons_of_neg (by decide)
  have hdrop : ('+' :: cs).dropWhile Char.isDigit = '+' :: cs :=
    List.dropWhile_cons_of_neg (by decide)
  rw [readPort, htake, hdrop]
  exact if_pos (by simp)

theorem ofText_http {p : String} (hp : IsHostAndPort p) {h : Host}
    (hhost : readWebHost (hostPart p) = .ok h) :
    Url.ofText ("http://" ++ p) = (readPort "http" (portPart p)).map fun (number, left) =>
      assemble "http" (some ⟨"", none, h, number⟩) left := by
  have hcolon : ':' ∉ hostPart p := by
    intro hmem
    simpa using List.mem_takeWhile_imp hmem
  have hplain : ∀ c ∈ p.toList, isDivider c = false := by
    rw [hp.parts, List.forall_mem_append, List.forall_mem_cons]
    exact ⟨not_divider_of_readWebHost hcolon hhost, by decide,
      fun c hc => (visible_of_mem_portPart hp hc).1⟩
  have hlast : p.toList.getLast? = some ((portPart p).getLast (portPart_ne_nil hp)) := by
    rw [hp.parts, List.getLast?_append, List.getLast?_cons,
      List.getLast?_eq_some_getLast (portPart_ne_nil hp)]
    rfl
  have hvisible := (visible_of_mem_portPart hp (List.getLast_mem (portPart_ne_nil hp))).2
  rw [ofText_http_of_plain hlast hvisible hplain, hp.parts,
    readAuthority_of_host hcolon hp.host_ne_nil (hp.parts ▸ hplain) hhost]
  cases readPort "http" (portPart p) <;> rfl

/-! ## Use -/

theorem isAsWritten_assemble {p : String} {h : Host} {port : Option Nat}
    (hhost : readWebHost (hostPart p) = .ok h) (hport : (port <|> some 80) = some (portNumber p)) :
    IsAsWritten p (assemble "http" (some ⟨"", none, h, port⟩) []) where
  scheme := rfl
  authority := ⟨h, port, rfl, hhost⟩
  port := hport
  path := rfl
  query := rfl
  fragment := rfl

/-- A client with a proxy that is used as it is written sends through the server of that name and
port, without saying who asks, if it uses a proxy at all. -/
theorem build_of_isUsable {p : String} (h : IsUsable p) :
    ∃ host proxy, readWebHost (hostPart p) = .ok host ∧
      Http.Client.build (some p) = .ok ⟨proxy⟩ ∧
      ∀ used, proxy = some used → used = ⟨⟨host.text, portNumber p⟩, none⟩ := by
  obtain ⟨u, hread, hwritten⟩ := h
  obtain ⟨host, port, hauthority, hhost⟩ := hwritten.authority
  refine ⟨host, (Http.addressOf? u).map Http.proxyOf, hhost, ?_, ?_⟩
  · rw [Http.Client.build, hread]
    rfl
  · intro used hused
    obtain ⟨address, haddress, rfl⟩ := Option.map_eq_some_iff.1 hused
    have hpath : u.path.text ≠ "" := by
      rw [hwritten.path]
      decide
    have hserver : Http.serverOf u = ⟨host.text, portNumber p⟩ := by
      rw [Http.serverOf, hwritten.port, Url.hostName, hauthority]
      rfl
    have hproxy : Http.proxyOf u = ⟨Http.serverOf u, none⟩ := by
      rw [Http.proxyOf, hauthority]
      rfl
    rw [Http.address_eq haddress ⟨_, hauthority⟩ hpath, ← hserver]
    exact hproxy

/-- A proxy that passes the checks of a configuration is used as it is written if the text before
its colon is a host and its port has no sign, and otherwise it is not. -/
theorem accepted_usable_iff {p : String} (h : IsAccepted p) :
    IsUsable p ↔ '+' ∉ portPart p ∧ ∃ host, readWebHost (hostPart p) = .ok host := by
  have hp := isHostAndPort_of_isWellFormed (isAccepted_iff.1 h)
  constructor
  · rintro ⟨u, hread, hwritten⟩
    obtain ⟨host, port, -, hhost⟩ := hwritten.authority
    refine ⟨?_, host, hhost⟩
    rw [ofText_http hp hhost] at hread
    rcases portPart_cases (portPart p) with hdigits | hdigits
    · rw [hdigits]
      intro hplus
      exact absurd (hp.digits '+' hplus) (by decide)
    · rw [hdigits, readPort_plus] at hread
      cases hread
  · rintro ⟨hplus, host, hhost⟩
    have hdigits : portPart p = portDigits (portPart p) := by
      rcases portPart_cases (portPart p) with hdigits | hdigits
      · exact hdigits
      · rw [hdigits] at hplus
        exact absurd List.mem_cons_self hplus
    obtain ⟨port, hread, hport⟩ := readPort_of_digits hp.digits hp.digits_ne_nil hp.number_lt
    refine ⟨_, ?_, isAsWritten_assemble hhost hport⟩
    rw [ofText_http hp hhost, hdigits, hread]
    rfl

set_option maxRecDepth 4000 in
/-- A proxy with a name and a port is used as it is written. -/
theorem accepted_usable_name : IsAccepted "proxy:8080" ∧ IsUsable "proxy:8080" := by
  have haccepted : IsAccepted "proxy:8080" := isAccepted_iff.2 (by decide)
  have hhost : readWebHost (hostPart "proxy:8080") = .ok (.domain "proxy") := rfl
  exact ⟨haccepted, (accepted_usable_iff haccepted).2 ⟨by decide, _, hhost⟩⟩

set_option maxRecDepth 4000 in
/-- A sign before the port passes the checks, and no address is made from the proxy. -/
theorem accepted_unusable_sign :
    IsAccepted "127.0.0.1:+8080" ∧ ¬IsUsable "127.0.0.1:+8080" ∧
      Http.Client.build (some "127.0.0.1:+8080") = .error .badPort := by
  have hread : Url.ofText ("http://" ++ "127.0.0.1:+8080") = .error .badPort := rfl
  refine ⟨isAccepted_iff.2 (by decide), ?_, ?_⟩
  · rintro ⟨u, hu, -⟩
    rw [hread] at hu
    cases hu
  · rw [Http.Client.build, hread]
    rfl

end Proxy

end Ingest
