import Ingest.Proofs.Config.Acceptance
import Ingest.Proofs.Json.Entries
import Ingest.Proofs.Json.Following
import Ingest.Proofs.Json.Rearranging
import Ingest.Proofs.Json.Rereading
/-!
# Descriptions of providers

A provider is described by a JSON document.  What is configured may be such a document inside a
text, which is checked and kept, or any other value, which is written with its members in order; and
if nothing is configured the document is an empty object.
-/

namespace Ingest

open Json

namespace ImportConfig

/-! ## What is configured -/

def dataNode? (s : String) : Option Node :=
  ((Document.ofText s).root.entryAt? 7 "provider").bind (·.entryAt? 1 "data")

def emptyObject : String := "\x7b\x7d"

def describe : Value → String
  | .null => emptyObject
  | .text raw => if Text.isBlank raw then emptyObject else raw
  | v => v.render

theorem data_of_section {depth : Nat} {node : Node} {p : ProviderSection}
    (h : ProviderSection.reader depth node = .ok p) :
    (Reader.optional Reader.value).ReadsEntry (some none) (depth - 1) p.data
      (node.entryAt? 1 "data") := by
  obtain ⟨t, hrecord, rfl⟩ := map_eq_ok_iff.1 h
  obtain ⟨-, hdata, -⟩ := Reader.readFrom_of_record (by decide) hrecord
  exact hdata

theorem provider_of_reader {depth : Nat} {node : Node} {c : ImportConfig}
    (h : reader depth node = .ok c) :
    (Reader.optional ProviderSection.reader).ReadsEntry (some none) (depth - 1) c.provider
      (node.entryAt? 7 "provider") := by
  obtain ⟨t, hrecord, rfl⟩ := map_eq_ok_iff.1 h
  obtain ⟨-, -, -, -, -, -, -, hprovider, -⟩ := Reader.readFrom_of_record (by decide) hrecord
  exact hprovider

/-- The provider's data are read two levels down, unless they are absent or null. -/
theorem providerValue_of_parse {s : String} {c : ImportConfig} (h : parse s = .ok c) :
    (c.providerValue = none ∧ (dataNode? s = none ∨ dataNode? s = some .null)) ∨
      ∃ node v, dataNode? s = some node ∧ node ≠ .null ∧ node.value (maxDepth - 2) = .ok v ∧
        c.providerValue = some v := by
  obtain ⟨hroot, -⟩ := Reader.ofText_ok_iff.1 h
  rw [dataNode?, providerValue]
  rcases (provider_of_reader hroot).given with
    ⟨hprovider, hentry⟩ | ⟨node, p, hentry, -, hp, hprovider⟩
  · rw [hprovider]
    refine .inl ⟨rfl, .inl ?_⟩
    rcases hentry with hentry | hentry <;> rw [hentry] <;> rfl
  · rw [hprovider, hentry]
    rcases (data_of_section hp).given with ⟨hdata, hnone⟩ | ⟨node, v, hnode, hnull, hv, hdata⟩
    · exact .inl ⟨hdata, hnone⟩
    · exact .inr ⟨node, v, hnode, hnull, hv, hdata⟩

/-! ## What describes it -/

theorem providerData_of_none {c : ImportConfig} (h : c.providerValue = none) :
    c.providerData = emptyObject := by
  rw [providerData, h, emptyObject]

theorem providerData_of_some {c : ImportConfig} {v : Value} (h : c.providerValue = some v) :
    c.providerData = describe v := by
  rw [providerData, h]
  cases v <;> rfl

theorem ofText_emptyObject : Value.ofText emptyObject = .ok (.object []) := by
  have hplain : (Value.object []).Plain 1 := .object (by simp)
  exact Value.ofText_render hplain (by decide)

/-- A text describes the provider: it is a JSON document, the empty object where nothing is given,
a text that is given as it stands, and else a document of the value that is given. -/
structure Describes (data : Option Node) (description : String) : Prop where
  parses : ∃ v, Value.ofText description = .ok v
  absent : data = none ∨ data = some .null → description = emptyObject
  blank : ∀ raw, data = some (.text (.ok raw)) → Text.isBlank raw = true → description = emptyObject
  verbatim : ∀ raw, data = some (.text (.ok raw)) → Text.isBlank raw = false → description = raw
  value : ∀ node, data = some node → node ≠ .null → (∀ content, node ≠ .text content) →
    (∀ path n, node.shapeAt path = some (.number n) → n.IsIntegral) →
    ∃ v, Value.ofText description = .ok v ∧ node.Denotes v

theorem describes_none {data : Option Node} (h : data = none ∨ data = some .null) :
    Describes data emptyObject where
  parses := ⟨_, ofText_emptyObject⟩
  absent _ := rfl
  blank _ _ _ := rfl
  verbatim raw htext := by
    rcases h with h | h <;> rw [h] at htext <;> cases htext
  value node hnode hnull := by
    rcases h with h | h <;> rw [h] at hnode <;> cases hnode
    exact absurd rfl hnull

theorem describes_text {raw : String} (hcheck : checkProviderData (some (.text raw)) = .ok ()) :
    Describes (some (.text (.ok raw))) (describe (.text raw)) where
  parses := by
    rw [describe]
    rw [checkProviderData] at hcheck
    split
    · exact ⟨_, ofText_emptyObject⟩
    · rename_i hblank
      rw [if_neg hblank] at hcheck
      split at hcheck
      · rename_i v hv
        exact ⟨v, hv⟩
      · cases hcheck
  absent h := by rcases h with h | h <;> cases h
  blank := by
    rintro raw ⟨⟩ hblank
    exact if_pos hblank
  verbatim := by
    rintro raw ⟨⟩ hblank
    exact if_neg (Bool.eq_false_iff.1 hblank)
  value := by
    rintro node ⟨⟩ - htext
    exact absurd rfl (htext (.ok raw))

theorem describes_value {node : Node} {v : Value} {depth : Nat} (hnull : node ≠ .null)
    (htext : ∀ content, node ≠ .text content) (hdepth : depth ≤ maxDepth)
    (hv : node.value depth = .ok v) : Describes (some node) v.render where
  parses := Value.exists_ofText_render_of_value hv hdepth
  absent h := by
    rcases h with h | h <;> cases h
    exact absurd rfl hnull
  blank := by
    rintro raw ⟨⟩
    exact absurd rfl (htext (.ok raw))
  verbatim := by
    rintro raw ⟨⟩
    exact absurd rfl (htext (.ok raw))
  value := by
    rintro node ⟨⟩ - - hintegral
    exact ⟨v, Value.ofText_render_of_value hv hdepth hintegral, denotes_of_value hv⟩

/-- Only null and texts are not written as they are read. -/
theorem describe_cases {node : Node} {v : Value} {depth : Nat} (hnull : node ≠ .null)
    (hv : node.value depth = .ok v) : (∃ raw, node = .text (.ok raw) ∧ v = .text raw) ∨
      (∀ content, node ≠ .text content) ∧ describe v = v.render := by
  cases node with
  | null => exact absurd rfl hnull
  | bool b =>
    cases hv
    exact .inr ⟨nofun, rfl⟩
  | number m =>
    obtain ⟨n, -, rfl⟩ := map_eq_ok_iff.1 hv
    exact .inr ⟨nofun, rfl⟩
  | text content =>
    obtain ⟨raw, rfl, rfl⟩ := map_eq_ok_iff.1 hv
    exact .inl ⟨raw, rfl, rfl⟩
  | list items stop =>
    obtain ⟨-, -, vs, -, rfl⟩ := value_list_ok_iff.1 hv
    exact .inr ⟨nofun, rfl⟩
  | object members stop =>
    obtain ⟨-, -, entries, -, rfl⟩ := value_object_ok_iff.1 hv
    exact .inr ⟨nofun, rfl⟩
  | broken stop => cases hv

theorem describes_of_ofText {s : String} {c : ImportConfig} (h : ofText s = .ok c) :
    Describes (dataNode? s) c.providerData := by
  obtain ⟨hparse, hvalid⟩ := ofText_ok_iff.1 h
  obtain ⟨-, -, -, -, -, hcheck⟩ := validate_ok_iff.1 hvalid
  rcases providerValue_of_parse hparse with ⟨hnone, hdata⟩ | ⟨node, v, hnode, hnull, hv, hsome⟩
  · rw [providerData_of_none hnone]
    exact describes_none hdata
  · rw [providerData_of_some hsome, hnode]
    rw [hsome] at hcheck
    rcases describe_cases hnull hv with ⟨raw, rfl, rfl⟩ | ⟨htext, hdescribe⟩
    · exact describes_text hcheck
    · rw [hdescribe]
      exact describes_value hnull htext (by decide) hv

/-! ## Descriptions compared -/

theorem providerData_eq_describe {s : String} {c : ImportConfig} {node : Node}
    (h : ofText s = .ok c) (hnode : dataNode? s = some node) :
    ∃ v, node.value (maxDepth - 2) = .ok v ∧ c.providerData = describe v := by
  rcases providerValue_of_parse (ofText_ok_iff.1 h).1 with
    ⟨hnone, hdata⟩ | ⟨node, v, hdata, -, hv, hsome⟩ <;> rw [hnode] at hdata
  · obtain rfl : node = .null := by simpa using hdata
    exact ⟨.null, rfl, providerData_of_none hnone⟩
  · cases hdata
    exact ⟨v, hv, providerData_of_some hsome⟩

/-- An accepted configuration describes its provider by a JSON document that is what is configured;
and configurations whose data differ in the order of members only give one document. -/
theorem providerData_describes {s : String} {c : ImportConfig} (h : ofText s = .ok c) :
    Describes (dataNode? s) c.providerData ∧
      ∀ {s' : String} {c' : ImportConfig} {node node' : Node}, ofText s' = .ok c' →
        dataNode? s = some node → dataNode? s' = some node' → node.SameUpToOrder node' →
        c'.providerData = c.providerData := by
  refine ⟨describes_of_ofText h, fun h' hnode hnode' hsame => ?_⟩
  obtain ⟨v, hv, hdata⟩ := providerData_eq_describe h hnode
  obtain ⟨v', hv', hdata'⟩ := providerData_eq_describe h' hnode'
  rw [hdata, hdata', hsame.value_eq hv hv']

def describedText (data : String) : String :=
  "\x7b\"endPoint\":\"h\",\"uis\":\"u\",\"mcs\":\"m\",\"login\":\"\",\"password\":\"\"," ++
  "\"createProvider\":true,\"provider\":\x7b\"data\":" ++ data ++ "\x7d\x7d"

def sampleMembers : List (Key × Node) :=
  [(.ok "b", .number ⟨false, [1], none, none⟩), (.ok "a", .number ⟨true, [0], none, none⟩)]

set_option maxRecDepth 20000 in
theorem dataNode?_sample :
    dataNode? (describedText "\x7b\"b\":1,\"a\":-0\x7d") = some (.object sampleMembers none) := rfl

set_option maxRecDepth 20000 in
theorem dataNode?_sample_reverse :
    dataNode? (describedText "\x7b\"a\":-0,\"b\":1\x7d") =
      some (.object sampleMembers.reverse none) := rfl

theorem isIntegral_sample (path : List Turn) (n : Number)
    (h : (Node.object sampleMembers none).shapeAt path = some (.number n)) : n.IsIntegral := by
  cases path with
  | nil => cases h
  | cons turn path =>
    obtain ⟨child, hchild, hshape⟩ := Option.bind_eq_some_iff.1 h
    obtain ⟨m, number, rfl, hvalue, hnumber⟩ : ∃ (m : Numeral) (number : Number),
        child = .number m ∧ m.value = .ok number ∧ number.IsIntegral := by
      cases turn with
      | item index => cases hchild
      | member key =>
        obtain ⟨entry, hfind, rfl⟩ := Option.map_eq_some_iff.1 hchild
        have hentry := List.mem_reverse.1 (List.mem_of_find?_eq_some hfind)
        simp only [sampleMembers, List.mem_cons, List.not_mem_nil, or_false] at hentry
        rcases hentry with rfl | rfl
        · exact ⟨_, _, rfl, rfl, .integer 1⟩
        · exact ⟨_, _, rfl, rfl, .negativeZero⟩
    cases path with
    | nil =>
      change m.value.toOption.map Shape.number = _ at hshape
      rw [hvalue] at hshape
      cases hshape
      exact hnumber
    | cons turn path => cases turn <;> cases hshape

/-- Members in another order give the same document. -/
theorem providerData_describes_sample : ∃ c c',
    ofText (describedText "\x7b\"b\":1,\"a\":-0\x7d") = .ok c ∧
      ofText (describedText "\x7b\"a\":-0,\"b\":1\x7d") = .ok c' ∧
      (∃ v, Value.ofText c.providerData = .ok v ∧ (Node.object sampleMembers none).Denotes v) ∧
      c.providerData = "\x7b\"a\":-0.0,\"b\":1\x7d" ∧ c'.providerData = c.providerData := by
  have hdata : (ofText (describedText "\x7b\"b\":1,\"a\":-0\x7d")).toOption.map providerData =
      some "\x7b\"a\":-0.0,\"b\":1\x7d" := by decide +kernel
  have hreverse :
      (ofText (describedText "\x7b\"a\":-0,\"b\":1\x7d")).toOption.isSome = true := by
    decide +kernel
  obtain ⟨c, hc, hdata⟩ := Option.map_eq_some_iff.1 hdata
  obtain ⟨c', hc'⟩ := Option.isSome_iff_exists.1 hreverse
  rw [toOption_eq_some_iff] at hc hc'
  obtain ⟨hdescribes, hsame⟩ := providerData_describes hc
  have horder : (Node.object sampleMembers none).SameUpToOrder
      (.object sampleMembers.reverse none) :=
    .single (.members (List.reverse_perm _).symm (by simp [sampleMembers]))
  exact ⟨c, c', hc, hc', hdescribes.value _ dataNode?_sample nofun nofun isIntegral_sample, hdata,
    hsame hc' dataNode?_sample dataNode?_sample_reverse horder⟩

end ImportConfig

end Ingest
