import Ingest.CommandLine.Settings
import Ingest.Text.Cut
import Ingest.World
/-!
# The machine

The world as this machine offers it: its files, its environment and its terminal.  It starts no
program and reaches no server, so a launch is refused and a message stays without an answer.
-/

namespace Ingest.Machine

open World

/-- The number of a cause; some calls give it as a negative one. -/
def causeNumber (code : UInt32) : Nat := (if code < 0x80000000 then code else -code).toNat

/-- The cause that the system gives for a failure. -/
def failureOf (e : IO.Error) : Files.Failure :=
  let numbered (code : UInt32) : Files.Failure :=
    match causeNumber code with
    | 17 => .exists
    | 20 => .notFolder
    | 21 => .isFolder
    | 36 => .nameTooLong
    | 40 => .tooManyLinks
    | _ => .described (toString e)
  match e with
  | .noFileOrDirectory .. => .missing
  | .permissionDenied .. => .notPermitted
  | .alreadyExists _ code _ | .inappropriateType _ code _ | .invalidArgument _ code _
  | .resourceExhausted _ code _ | .otherError code _ => numbered code
  | e => .described (toString e)

/-- Use a file; a path with a zero character leads to none. -/
def attempt {α : Type} (path : Path) (action : IO α) : BaseIO (Except Files.Failure α) := do
  if path.text.toList.contains '\x00' then return .error .zeroInPath
  return (← action.toBaseIO).mapError failureOf

def readFile (path : String) : IO Bytes := do
  return (← IO.FS.readBinFile path).toList

def readFirst : List String → BaseIO (Option Bytes)
  | [] => return none
  | path :: paths => do
    match ← (readFile path).toBaseIO with
    | .ok bytes => return some bytes
    | .error _ => readFirst paths

/-- The settings file of the working folder and those of the folders above it. -/
def settingsFiles : IO (List String) := do
  let folder := toString (← IO.currentDir)
  let depth := folder.toList.count '/'
  return (List.range (depth + 1)).map fun n => String.join (List.replicate n "../") ++ ".env"

/-- The names of the files in a folder; the empty path leads to none. -/
def fileNames (folder : Path) : IO (List String) := do
  if folder.text.isEmpty then throw (IO.userError "no folder")
  let entries ← ((← IO.currentDir) / folder.text).readDir
  let files ← entries.toList.filterM fun entry => do
    match ← entry.path.metadata.toBaseIO with
    | .ok found => return (found.type matches .file)
    | .error _ => return false
  return files.map (·.fileName)

def print (stream : Stream) (text : String) : IO Unit := do
  let out ← match stream with
    | .output => IO.getStdout
    | .errors => IO.getStderr
  out.putStr text
  out.flush

def answer : (q : Request) → BaseIO (Reply q)
  | .startWorkers _ => return .ok ()
  | .readFile path => attempt path (readFile path.text)
  | .readSettings => do
    match ← settingsFiles.toBaseIO with
    | .ok paths => readFirst paths
    | .error _ => return none
  | .fileNames folder => return (← (fileNames folder).toBaseIO).toOption
  | .makeFolders path => attempt path (IO.FS.createDirAll path.text)
  | .writeFile path content => attempt path (IO.FS.writeFile path.text content)
  | .launch .. => return .error .notPermitted
  | .exchange .. => return none
  | .print .output text => do
    match ← (print .output text).toBaseIO with
    | .ok () | .error _ => return ()
  | .print .errors text => return (← (print .errors text).toBaseIO).isOk

/-- A name with its value, as the environment writes it. -/
def assignment? (entry : List Char) : Option (String × String) :=
  if entry.contains '\uFFFD' then none
  else match entry.span (· ≠ '=') with
    | (name, _ :: value) => some (String.ofList name, String.ofList value)
    | (_, []) => none

def environment : BaseIO CommandLine.Settings.Variables := do
  match ← (readFile "/proc/self/environ").toBaseIO with
  | .ok bytes => return (Text.cut '\x00' (Utf8.decodeLossy bytes).toList).filterMap assignment?
  | .error _ => return []

end Ingest.Machine
