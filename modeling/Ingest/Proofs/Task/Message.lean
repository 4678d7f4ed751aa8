import Ingest.Proofs.Json.Rendering
import Ingest.Task
/-!
# Messages of tasks, read back

A message is a JSON document, and one of its parameters is a JSON document again, written into a
text.  Both are read back as what the section says, character by character, so sections with the
same message differ in nothing that is sent.
-/

namespace Ingest

open Json

namespace TaskSection

def indexerSettings (s : TaskSection) : Value :=
  .object [("INDEX", .text s.index), ("INDEXER_NAME", .text s.indexerName),
    ("TYPE", .text s.indexType)]

def parameters (s : TaskSection) (indexer : String) : List (String × String) :=
  if s.name = "NewDataset" then
    [("DATASET_ID", s.dataSetId), ("EXTRACT_TEXT", s.extractText), ("INDEXER", indexer),
      ("INDEX_DATA", s.indexData), ("PROVIDER_ID", s.providerId),
      ("STORE_EXTRACTED_TEXT", s.storeExtracted)]
  else
    [("EXTRACT_TEXT", s.extractText), ("FILE_URL", s.fileUrl), ("INDEXER", indexer),
      ("INDEX_DATA", s.indexData), ("STORE_EXTRACTED_TEXT", s.storeExtracted)]

/-- The message of a section as a document, around the text of the indexer's settings. -/
def document (s : TaskSection) (indexer : String) : Value :=
  .object [("inputData", .object []),
    ("parameters", .object ((s.parameters indexer).map fun p => (p.1, .text p.2))),
    ("taskName", .text s.name)]

/-- The sections agree in all that is sent for tasks of their kind. -/
structure SameTask (s s' : TaskSection) : Prop where
  name_eq : s.name = s'.name
  indexerName_eq : s.indexerName = s'.indexerName
  index_eq : s.index = s'.index
  indexType_eq : s.indexType = s'.indexType
  extractText_eq : s.extractText = s'.extractText
  indexData_eq : s.indexData = s'.indexData
  storeExtracted_eq : s.storeExtracted = s'.storeExtracted
  dataSet_eq : s.name = "NewDataset" → s.providerId = s'.providerId ∧ s.dataSetId = s'.dataSetId
  file_eq : s.name = "NewFile" → s.fileUrl = s'.fileUrl

theorem ofText_indexer (s : TaskSection) : Value.ofText s.indexer = .ok s.indexerSettings := by
  have hplain : (Value.object [("INDEXER_NAME", .text s.indexerName), ("INDEX", .text s.index),
      ("TYPE", .text s.indexType)]).Plain 1 := by
    refine .object fun m hm => ?_
    simp only [List.mem_cons, List.not_mem_nil, or_false] at hm
    rcases hm with rfl | rfl | rfl <;> exact .text 0 _
  have hread := Value.ofText_render hplain (by decide)
  have hsorted : (Value.object [("INDEXER_NAME", .text s.indexerName), ("INDEX", .text s.index),
      ("TYPE", .text s.indexType)]).settled = s.indexerSettings := by
    simp only [indexerSettings, Value.settled, Value.settledMembers, Value.ofMembers,
      Value.sortMembers, List.foldl_cons, List.foldl_nil, Value.insert, String.reduceLT,
      String.reduceEq, ↓reduceIte]
  rw [hsorted] at hread
  exact hread

/-- The kind of the task decides which parameters there are to compare. -/
theorem parameters_agree {s s' : TaskSection} {indexer indexer' : String}
    (hkind : s.name = "NewDataset" ∨ s.name = "NewFile") (hname : s.name = s'.name)
    (h : s.parameters indexer = s'.parameters indexer') :
    s.extractText = s'.extractText ∧ indexer = indexer' ∧ s.indexData = s'.indexData ∧
      s.storeExtracted = s'.storeExtracted ∧
      (s.name = "NewDataset" → s.providerId = s'.providerId ∧ s.dataSetId = s'.dataSetId) ∧
      (s.name = "NewFile" → s.fileUrl = s'.fileUrl) := by
  rcases hkind with hkind | hkind
  · have hkind' : s'.name = "NewDataset" := hname ▸ hkind
    simp only [parameters, if_pos hkind, if_pos hkind', List.cons.injEq, Prod.mk.injEq, true_and,
      and_true] at h
    obtain ⟨hdataSet, hextract, hindexer, hindexData, hprovider, hstore⟩ := h
    refine ⟨hextract, hindexer, hindexData, hstore, fun _ => ⟨hprovider, hdataSet⟩, fun hfile => ?_⟩
    exact absurd (hkind.symm.trans hfile) (by decide)
  · have hother : s.name ≠ "NewDataset" := by
      rw [hkind]
      decide
    have hother' : s'.name ≠ "NewDataset" := hname ▸ hother
    simp only [parameters, if_neg hother, if_neg hother', List.cons.injEq, Prod.mk.injEq, true_and,
      and_true] at h
    obtain ⟨hextract, hfile, hindexer, hindexData, hstore⟩ := h
    exact ⟨hextract, hindexer, hindexData, hstore, fun hdataSet => absurd hdataSet hother,
      fun _ => hfile⟩

end TaskSection

namespace TaskMessage

/-- The text is read as the message of the section, and the indexer's settings in it are read as
those of the section. -/
structure Carries (s : TaskSection) (text : String) : Prop where
  kind : s.name = "NewDataset" ∨ s.name = "NewFile"
  document : ∃ indexer, Value.ofText text = .ok (s.document indexer) ∧
    Value.ofText indexer = .ok s.indexerSettings

/-- A section that is accepted names its target in full, and the message is the one for it. -/
theorem ofSection_ok {s : TaskSection} {m : TaskMessage} (h : ofSection s = .ok m) :
    (s.name = "NewDataset" ∧ m = forTarget s (.dataSet s.providerId s.dataSetId)) ∨
      (s.name = "NewFile" ∧ m = forTarget s (.file s.fileUrl)) := by
  rw [ofSection, TaskSection.target] at h
  split at h
  · rename_i hdataSet
    split at h
    · cases h
    · cases h
      exact .inl ⟨hdataSet, rfl⟩
  · split at h
    · rename_i hfile
      split at h
      · cases h
      · cases h
        exact .inr ⟨hfile, rfl⟩
    · cases h

theorem ofSection_parameters {s : TaskSection} {m : TaskMessage} (h : ofSection s = .ok m) :
    m.parameters = s.parameters s.indexer ∧ m.taskName = s.name := by
  obtain ⟨hname, rfl⟩ | ⟨hname, rfl⟩ := ofSection_ok h
  · refine ⟨?_, hname.symm⟩
    simp only [forTarget, TaskTarget.parameters, List.cons_append, List.nil_append,
      List.foldr_cons, List.foldr_nil, insert, String.reduceLT, ↓reduceIte,
      TaskSection.parameters, hname]
  · refine ⟨?_, hname.symm⟩
    simp only [forTarget, TaskTarget.parameters, List.cons_append, List.nil_append,
      List.foldr_cons, List.foldr_nil, insert, String.reduceLT, String.reduceEq, ↓reduceIte,
      TaskSection.parameters, hname]

theorem plain_toValue (m : TaskMessage) : m.toValue.Plain 2 := by
  refine .object fun member hmember => ?_
  simp only [List.mem_cons, List.not_mem_nil, or_false] at hmember
  rcases hmember with rfl | rfl | rfl
  · exact .object (by simp)
  · refine .object fun p hp => ?_
    obtain ⟨q, -, rfl⟩ := List.mem_map.1 hp
    exact .text 0 _
  · exact .text 1 _

theorem settled_document (s : TaskSection) (indexer : String) :
    (s.document indexer).settled = s.document indexer := by
  by_cases hname : s.name = "NewDataset" <;>
    simp only [TaskSection.document, TaskSection.parameters, hname, List.map_cons, List.map_nil,
      Value.settled, Value.settledMembers, Value.ofMembers, Value.sortMembers, List.foldl_cons,
      List.foldl_nil, Value.insert, String.reduceLT, String.reduceEq, ↓reduceIte]

theorem carries_toJson {s : TaskSection} {m : TaskMessage} (h : ofSection s = .ok m) :
    Carries s m.toJson := by
  obtain ⟨hparameters, hname⟩ := ofSection_parameters h
  have hvalue : m.toValue = s.document s.indexer := by
    rw [toValue, hparameters, hname]
    rfl
  have hread := Value.ofText_render (plain_toValue m) (by decide)
  rw [hvalue, settled_document] at hread
  refine ⟨?_, s.indexer, ?_, s.ofText_indexer⟩
  · obtain ⟨hkind, -⟩ | ⟨hkind, -⟩ := ofSection_ok h
    · exact .inl hkind
    · exact .inr hkind
  · rw [toJson, hvalue]
    exact hread

theorem document_injective {s s' : TaskSection} {indexer indexer' : String}
    (h : s.document indexer = s'.document indexer') :
    s.parameters indexer = s'.parameters indexer' ∧ s.name = s'.name := by
  simp only [TaskSection.document, Value.object.injEq, List.cons.injEq, Prod.mk.injEq, true_and,
    and_true, Value.text.injEq] at h
  refine ⟨(List.map_inj_right ?_).1 h.1, h.2⟩
  rintro ⟨a, b⟩ ⟨c, d⟩ hpair
  simpa using hpair

theorem Carries.sameTask {s s' : TaskSection} {text : String} (h : Carries s text)
    (h' : Carries s' text) : s.SameTask s' := by
  obtain ⟨indexer, hdocument, hindexer⟩ := h.document
  obtain ⟨indexer', hdocument', hindexer'⟩ := h'.document
  have hsame : s.document indexer = s'.document indexer' := by
    rw [hdocument] at hdocument'
    exact Except.ok.inj hdocument'
  obtain ⟨hparameters, hname⟩ := document_injective hsame
  obtain ⟨hextract, rfl, hindexData, hstore, hdataSet, hfile⟩ :=
    TaskSection.parameters_agree h.kind hname hparameters
  have hsettings : s.indexerSettings = s'.indexerSettings := by
    rw [hindexer] at hindexer'
    exact Except.ok.inj hindexer'
  simp only [TaskSection.indexerSettings, Value.object.injEq, List.cons.injEq, Prod.mk.injEq,
    true_and, and_true, Value.text.injEq] at hsettings
  obtain ⟨hindex, hindexerName, hindexType⟩ := hsettings
  exact ⟨hname, hindexerName, hindex, hindexType, hextract, hindexData, hstore, hdataSet, hfile⟩

/-- What is sent for a section that is accepted is read back as that section, and no section with
another task is sent as the same text. -/
theorem toJson_read_back {s : TaskSection} {m : TaskMessage} (h : ofSection s = .ok m) :
    Carries s m.toJson ∧
      ∀ s' m', ofSection s' = .ok m' → m'.toJson = m.toJson → s.SameTask s' := by
  refine ⟨carries_toJson h, fun s' m' h' hsame => ?_⟩
  have hcarries' := carries_toJson h'
  rw [hsame] at hcarries'
  exact (carries_toJson h).sameTask hcarries'

def awkwardSection : TaskSection where
  topic := "t"
  name := "NewFile"
  providerId := ""
  dataSetId := ""
  fileUrl := "http://h/a\"b\\c"
  indexerName := "\"\\\"\n"
  index := "core \"main\""
  indexType := "\x01é漢"
  extractText := "true"
  indexData := ""
  storeExtracted := "\t"
  login := ""
  password := ""

theorem toJson_read_back_awkward :
    ofSection awkwardSection = .ok (forTarget awkwardSection (.file awkwardSection.fileUrl)) ∧
      Carries awkwardSection
        (forTarget awkwardSection (.file awkwardSection.fileUrl)).toJson := by
  have haccepted : ofSection awkwardSection =
      .ok (forTarget awkwardSection (.file awkwardSection.fileUrl)) := rfl
  exact ⟨haccepted, (toJson_read_back haccepted).1⟩

end TaskMessage

end Ingest
