import Ingest.Json.Value
/-!
# Templates

What is installed into the search services: the schema and the configuration of a search core, and
the mapping of a search index.
-/

namespace Ingest.Template

/-- A text of lines, each with its line break. -/
def ofLines (lines : List String) : String := String.join (lines.map (· ++ "\n"))

/-- The schema of a search core: a key, a text field with term vectors and a field for all else. -/
def schema : String := ofLines [
    "<schema name=\"minimal\" version=\"1.5\">",
    "",
    "    <field name=\"id\" type=\"string\" indexed=\"true\" stored=\"true\" required=\"true\" />",
    "    <field name=\"raw_text\" type=\"text_general\" indexed=\"true\" stored=\"true\" termVectors=\"true\" required=\"false\" />",
    "",
    "    <dynamicField name=\"*\" type=\"text_general\" indexed=\"true\" stored=\"true\" termVectors=\"true\" multiValued=\"true\" />",
    "    <uniqueKey>id</uniqueKey>",
    "",
    "    <fieldType name=\"string\" class=\"solr.StrField\"/>",
    "",
    "    <fieldType name=\"text_general\" class=\"solr.TextField\" positionIncrementGap=\"100\">",
    "      <analyzer type=\"index\">",
    "        <tokenizer class=\"solr.StandardTokenizerFactory\"/>",
    "      </analyzer>",
    "      <analyzer type=\"query\">",
    "        <tokenizer class=\"solr.StandardTokenizerFactory\"/>",
    "      </analyzer>",
    "    </fieldType>",
    "",
    "</schema>"]

def coreConfig : String := ofLines [
    "<config>",
    "",
    "  <dataDir>$\x7bsolr.data.dir:\x7d</dataDir>",
    "",
    "  <directoryFactory name=\"DirectoryFactory\"",
    "                    class=\"$\x7bsolr.directoryFactory:solr.NRTCachingDirectoryFactory\x7d\"/>",
    "",
    "  <luceneMatchVersion>$\x7btests.luceneMatchVersion:LATEST\x7d</luceneMatchVersion>",
    "",
    "  <updateHandler class=\"solr.DirectUpdateHandler2\">",
    "    <commitWithin>",
    "      <softCommit>$\x7bsolr.commitwithin.softcommit:true\x7d</softCommit>",
    "    </commitWithin>",
    "",
    "  </updateHandler>",
    "  <requestHandler name=\"/select\" class=\"solr.SearchHandler\">",
    "    <lst name=\"defaults\">",
    "      <str name=\"echoParams\">explicit</str>",
    "      <str name=\"indent\">true</str>",
    "      <str name=\"df\">text</str>",
    "    </lst>",
    "",
    "  </requestHandler>",
    "",
    "  <requestHandler name=\"/admin/\" class=\"org.apache.solr.handler.admin.AdminHandlers\" />",
    "",
    "  <requestHandler name=\"/update\" class=\"solr.UpdateRequestHandler\"  />",
    "</config>"]

def schemaFile : String := "schema.xml"

def coreConfigFile : String := "solrconfig.xml"

/-- The mapping of a search index: documents of the type have a text with positional term
vectors. -/
def indexMapping (typeName : String) : Json.Value :=
  .object [("mappings", .object [(typeName, .object [("properties", .object [("raw_text",
    .object [("term_vector", .text "with_positions_offsets"), ("type", .text "string")])])])])]

end Ingest.Template
