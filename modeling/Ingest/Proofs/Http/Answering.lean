import Mathlib.Data.List.Forall2
import Ingest.Proofs.Dialogue.Trace
import Ingest.Proofs.Http.Sending
import Ingest.Proofs.Text.Base64
/-!
# The answer to what was sent

A request whose address a message can name is sent, with the headers it was given; and unless the
response sends it on to another place, the answer that is read from the response is the outcome.
A request whose address cannot be named is not sent at all.
-/

namespace Ingest.Http

open Dialogue

/-! ## Headers -/

namespace Headers

@[simp] theorem values_add_self (headers : Headers) (name value : String) :
    (headers.add name value).values name = headers.values name ++ [value] := by
  simp [add, values]

theorem values_add_of_ne {name other : String} (h : other ≠ name) (headers : Headers)
    (value : String) : (headers.add other value).values name = headers.values name := by
  simp [add, values, h]

end Headers

/-- The user that an address names, without a password if it names none. -/
def usersOf (u : Url) : List (String × String) :=
  (u.user?.map fun (login, password) => (login, password.getD "")).toList

/-! ## What was sent -/

structure Sending where
  connection : Connection
  message : Message
  reply : Option Response

def sending? : Exchange World.Request World.Reply → Option Sending
  | ⟨.exchange connection message, reply⟩ => some ⟨connection, message, reply⟩
  | _ => none

def sendings (xs : List (Exchange World.Request World.Reply)) : List Sending :=
  xs.filterMap sending?

/-- The name and the password are read from the value of a header as they are. -/
def IsBasicAuth (value : String) (user : String × String) : Prop :=
  ∃ code : String, value = "Basic " ++ code ∧
    Base64.decode? code.toList = some (Utf8.encode (user.1 ++ ":" ++ user.2))

/-- The message says who asks: the users, in the order of the header lines for them. -/
def Message.Authorises (m : Message) (users : List (String × String)) : Prop :=
  List.Forall₂ IsBasicAuth (m.headers.values "authorization") users

theorem isBasicAuth_basicAuth (login : String) (password : Option String) :
    IsBasicAuth (basicAuth login password) (login, password.getD "") :=
  ⟨_, rfl, Base64.decode?_encodeText _⟩

theorem authorises_of (method : String) (u : Url) :
    List.Forall₂ IsBasicAuth ((Request.of method u).headers.values "authorization")
      (usersOf u) := by
  unfold Request.of usersOf
  cases u.user? with
  | none => exact .nil
  | some user =>
      have hvalues : (Headers.add [("accept", "application/json"), ("accept-charset", "UTF-8")]
          "authorization" (basicAuth user.1 user.2)).values "authorization" =
            [basicAuth user.1 user.2] := rfl
      rw [hvalues]
      exact .cons (isBasicAuth_basicAuth user.1 user.2) .nil

/-- Who asks comes behind the users that were named before. -/
theorem authorises_message (c : Client) {r : Request} {users : List (String × String)}
    (h : List.Forall₂ IsBasicAuth (r.headers.values "authorization") users)
    (login password : String) (address : Url) :
    (c.message { r.withAuth login password with url := address }).2.Authorises
      (users ++ [(login, password)]) := by
  have hheaders : (c.message { r.withAuth login password with url := address }).2.headers =
      (r.headers.add "authorization" (basicAuth login (some password))).add "host"
        ((address.authority.map (·.hostText)).getD "") := rfl
  rw [Message.Authorises, hheaders, Headers.values_add_of_ne (by decide), Headers.values_add_self]
  exact List.rel_append h (.cons (isBasicAuth_basicAuth login (some password)) .nil)

example :
    let u : Url := ⟨"http", some ⟨"u", some "p", .domain "h", none⟩, .segments [""], none, none⟩
    ((⟨none⟩ : Client).message ((Request.of "GET" u).withAuth "l" "p")).2.headers.values
      "authorization" = ["Basic dTpw", "Basic bDpw"] := by
  decide +kernel

/-! ## Long addresses -/

theorem length_le_encode (s : String) : s.toList.length ≤ (Utf8.encode s).length := by
  unfold Utf8.encode
  induction s.toList with
  | nil => exact Nat.le_refl 0
  | cons c cs ih =>
    have hpos := List.length_pos_iff.2 (String.utf8EncodeChar_ne_nil (c := c))
    rw [List.flatMap_cons, List.length_append, List.length_cons]
    omega

theorem length_le_encodeText (s : String) : s.toList.length ≤ (Form.encodeText s).length := by
  have hchar : ∀ c, 0 < (Form.encodeChar c).length := by
    intro c
    unfold Form.encodeChar Percent.encodeChar
    split
    · exact Nat.one_pos
    · split
      · obtain ⟨b, bytes, hbytes⟩ :=
          List.exists_cons_of_ne_nil (String.utf8EncodeChar_ne_nil (c := c))
        rw [hbytes, List.flatMap_cons, List.length_append]
        exact Nat.add_pos_left (Nat.succ_pos 2) _
      · exact Nat.one_pos
  unfold Form.encodeText
  induction s.toList with
  | nil => exact Nat.le_refl 0
  | cons c cs ih =>
    have hpos := hchar c
    rw [List.flatMap_cons, List.length_append, List.length_cons]
    omega

theorem length_le_append (query : Option String) (name value : String)
    (others : List (String × String)) :
    value.toList.length ≤ (Form.append query ((name, value) :: others)).toList.length := by
  have hencode : value.toList.length ≤ (Form.encode ((name, value) :: others)).toList.length := by
    have hvalue := length_le_encodeText value
    rw [Form.encode, String.toList_ofList]
    cases others with
    | nil =>
      simp only [List.map_cons, List.map_nil, List.intercalate_singleton, Form.encodePair,
        List.length_append, List.length_cons]
      omega
    | cons next others =>
      simp only [List.map_cons, List.intercalate_cons_cons, Form.encodePair, List.length_append,
        List.length_cons]
      omega
  unfold Form.append
  split
  · exact hencode
  · split
    · exact hencode
    · simp only [String.toList_append, List.length_append]
      omega

/-- A query that is too long makes for an address that no message can name. -/
theorem addressOf?_of_long {u : Url} {query : String} (hquery : u.query = some query)
    (hlong : maxAddress < query.toList.length) : addressOf? u = none := by
  have htext : query.toList.length ≤ u.text.toList.length := by
    simp only [Url.text, Url.target, hquery, Url.marked, String.toList_append, List.length_append]
    omega
  have hbytes := length_le_encode u.text
  rw [addressOf?, if_pos (by omega)]

/-! ## Sending -/

def isRedirect (status : Nat) : Bool := [301, 302, 303, 307, 308].contains status

namespace Client

variable {c : Client} {r : Request} {xs : List (Exchange World.Request World.Reply)}
  {outcome : Except Failure Answer}

theorem redirected?_eq_none {status : Nat} (h : isRedirect status = false) (r : Request) :
    redirected? r status = none := by
  simp only [isRedirect, List.contains_cons, List.contains_nil, Bool.or_false, Bool.or_eq_false_iff,
    beq_eq_false_iff_ne] at h
  obtain ⟨h1, h2, h3, h4, h5⟩ := h
  simp [redirected?, h1, h2, h3, h4, h5]

theorem trace_send_of_unnamed (h : r.url.isHttp = false ∨ addressOf? r.url = none)
    (htrace : (c.send r).Trace xs outcome) :
    xs = [] ∧ outcome = .error (.notSendable r.url.text) := by
  have hnone : (if r.url.isHttp then addressOf? r.url else none) = none := by
    rcases h with h | h
    · rw [h]
      rfl
    · rw [h, ite_self]
  rw [send, hnone] at htrace
  exact trace_done_iff.1 htrace

/-- What is sent first is the message for the address, and an answer to it is the outcome, unless it
sends the request on. -/
theorem trace_send (hhttp : r.url.isHttp = true) {address : Url}
    (haddress : addressOf? r.url = some address) (htrace : (c.send r).Trace xs outcome) :
    ∃ reply rest, sendings xs = ⟨(c.message { r with url := address }).1,
        (c.message { r with url := address }).2, reply⟩ :: rest ∧
      ∀ response, reply = some response → response.isAnswer = true →
        isRedirect response.status = false → rest = [] ∧ outcome = response.answer := by
  have hsend : c.send r =
      c.sendFrom r.url maxRedirects address { r with url := address } := by
    rw [send, hhttp, if_pos rfl, haddress]
  have hself : comingFrom address { r with url := address } = { r with url := address } :=
    comingFrom_self { r with url := address }
  rw [hsend, sendFrom, hself] at htrace
  obtain ⟨reply, rest, rfl, hrest⟩ := trace_ask_iff.1 htrace
  refine ⟨reply, sendings rest, rfl, ?_⟩
  rintro response rfl hanswer hredirect
  simp only [hanswer, redirected?_eq_none hredirect, Bool.not_true, Bool.false_eq_true, if_false]
    at hrest
  obtain ⟨rfl, rfl⟩ := trace_done_iff.1 hrest
  exact ⟨rfl, rfl⟩

end Client

end Ingest.Http
