import Ingest.Config.Import
import Ingest.Http.Client
import Ingest.Repository
/-!
# Asking the repository over HTTP

Each request to the repository is one request to the identity or the content service.  It succeeds
on the status that is documented for it, and any other status is a failure.
-/

namespace Ingest.Repository

inductive ClientProblem where
  | serviceUrl (text : String) (problem : Url.Problem)
  | proxy (problem : Url.Problem)
  deriving DecidableEq, Repr

def ClientProblem.message : ClientProblem → String
  | .serviceUrl text problem => s!"invalid service URL {text}: {problem.message}"
  | .proxy problem => s!"cannot build HTTP client: builder error: builder error: {problem.message}"

/-- A client of the repository: its two services and the user who asks. -/
structure Client where
  http : Http.Client
  identity : Url
  content : Url
  login : String
  password : String
  deriving DecidableEq, Repr

/-- The address of a service below the end point, with one slash between them. -/
def serviceText (endPoint service : String) : String :=
  Text.trimEndWhile (· = '/') endPoint ++ "/" ++ Text.trimWhile (· = '/') service

def serviceUrl (endPoint service : String) : Except ClientProblem Url :=
  let text := serviceText endPoint service
  (Url.ofText text).mapError (.serviceUrl text)

namespace Client

def build (c : ImportConfig) : Except ClientProblem Client := do
  let identity ← serviceUrl c.endPoint c.identityService
  let content ← serviceUrl c.endPoint c.contentService
  let http ← (Http.Client.build c.proxy).mapError .proxy
  return ⟨http, identity, content, c.login, c.password⟩

/-! ## Addresses -/

/-- Where identifiers are issued and looked up. -/
def cloudIdsUrl (c : Client) (key : RecordKey) : Url :=
  (c.identity.join ["cloudIds", ""]).withPairs
    (("providerId", key.providerId) :: (key.recordId.map fun id => ("recordId", id)).toList)

def providersUrl (c : Client) (id : String) : Url :=
  (c.identity.join ["data-providers", ""]).withPairs [("providerId", id)]

def dataSetsUrl (c : Client) (providerId : String) : Url :=
  c.content.join ["data-providers", providerId, "data-sets", ""]

def representationUrl (c : Client) (cloudId name : String) : Url :=
  c.content.join ["records", cloudId, "representations", name, ""]

def assignmentsUrl (c : Client) (providerId dataSetId : String) : Url :=
  c.content.join ["data-providers", providerId, "data-sets", dataSetId, "assignments", ""]

/-- An address below that of a version. -/
def below (versionUrl tail : String) : Except RemoteError Url :=
  match Url.ofText versionUrl with
  | .ok url => .ok (url.join [tail, ""])
  | .error problem => .error (.transport "parse version URL" (.notUrl problem))

/-! ## Requests -/

def send (c : Client) (operation : String) (r : Http.Request) :
    WorldDialogue (Except RemoteError Http.Answer) := do
  match ← c.http.send (r.withAuth c.login c.password) with
  | .ok answer => return .ok answer
  | .error cause => return .error (.transport operation cause)

def expectStatus (operation : String) (accepted : List Nat) (a : Http.Answer) :
    Except RemoteError Http.Answer :=
  if a.status ∈ accepted then .ok a
  else .error (.unexpectedStatus operation a.status a.body)

/-- The answer must say where something is. -/
def expectLocation (operation : String) (a : Http.Answer) : Except RemoteError String :=
  match a.location with
  | some location => .ok location
  | none => .error (.missingLocation operation)

/-- The answer must hold an identifier. -/
def expectCloudId (operation : String) (a : Http.Answer) : Except RemoteError CloudId :=
  (CloudId.ofText a.body).mapError (.malformedBody operation)

def call {α : Type} (c : Client) (operation : String) (r : Http.Request)
    (read : Http.Answer → Except RemoteError α) : WorldDialogue (Except RemoteError α) := do
  let answer ← c.send operation r
  return answer.bind read

def uploadParts (file : FileUpload) (content : Bytes) : List Http.Part :=
  [.file "data" file.fileName content, .text "fileName" file.fileName] ++
    (file.mediaType.map fun t => Http.Part.text "mimeType" t).toList

def dataSetPairs (d : NewDataSet) : List (String × String) :=
  ("dataSetId", d.id) :: (d.description.map fun t => ("description", t)).toList

def assignmentPairs (a : Assignment) : List (String × String) :=
  [("cloudId", a.cloudId), ("representationName", a.representation)] ++
    (a.version.map fun v => ("version", v)).toList

def persistOutcome (a : Http.Answer) : PersistOutcome :=
  if a.status = 405 then .alreadyPersistent else .persisted a.location

/-- Upload a file; it is read before anything is sent. -/
def addFile (c : Client) (versionUrl : String) (file : FileUpload) :
    WorldDialogue (Except RemoteError String) :=
  .ask (.readFile file.path) fun
    | .error cause => .done (.error (.file file.path cause))
    | .ok content =>
      match below versionUrl "files" with
      | .error e => .done (.error e)
      | .ok url =>
        c.call "add file" ((Http.Request.of "POST" url).withParts (uploadParts file content))
          fun a => do expectLocation "add file" (← expectStatus "add file" [201] a)

def answer (c : Client) : (q : Request) → WorldDialogue (Reply q)
  | .createProvider id data =>
    c.call "create provider" ((Http.Request.of "POST" (c.providersUrl id)).withJson data) fun a => do
      let _ ← expectStatus "create provider" [200, 201] a
  | .createDataSet providerId dataSet =>
    c.call "create data set"
      ((Http.Request.of "POST" (c.dataSetsUrl providerId)).withForm (dataSetPairs dataSet))
      fun a => do
        let _ ← expectStatus "create data set" [201] a
  | .createCloudId key =>
    c.call "create cloud id"
      ((Http.Request.of "POST" (c.cloudIdsUrl key)).withHeader "content-type" "application/json")
      fun a => do expectCloudId "create cloud id" (← expectStatus "create cloud id" [200] a)
  | .getCloudId key =>
    c.call "get cloud id" (Http.Request.of "GET" (c.cloudIdsUrl key))
      fun a => do expectCloudId "get cloud id" (← expectStatus "get cloud id" [200] a)
  | .createRepresentation cloudId name providerId =>
    c.call "create representation"
      ((Http.Request.of "POST" (c.representationUrl cloudId name)).withForm
        [("providerId", providerId)])
      fun a => do
        expectLocation "create representation" (← expectStatus "create representation" [201] a)
  | .addFile versionUrl file => c.addFile versionUrl file
  | .persist versionUrl =>
    match below versionUrl "persist" with
    | .error e => .done (.error e)
    | .ok url =>
      c.call "persist representation" (Http.Request.of "POST" url)
        fun a => (expectStatus "persist representation" [201, 405] a).map persistOutcome
  | .assign providerId dataSetId assignment =>
    c.call "assign representation"
      ((Http.Request.of "POST" (c.assignmentsUrl providerId dataSetId)).withForm
        (assignmentPairs assignment))
      fun a => do
        let _ ← expectStatus "assign representation" [204] a

def carryOut {α : Type} (c : Client) (d : RepositoryDialogue α) : WorldDialogue α :=
  d.perform c.answer

end Client

end Ingest.Repository
