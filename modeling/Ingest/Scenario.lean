import Ingest.Files.Tree
import Ingest.Media.Common
import Ingest.World
/-!
# Scenarios

A world without a machine: a tree of files, programs that only exit, and one server whose answers
are laid down beforehand.  The server reads no secure messages.  The world keeps what it was asked
to do.
-/

namespace Ingest

/-- A world that is known in full. -/
structure Scenario where
  files : Files.Tree
  /-- The names of the one server that answers. -/
  servers : List Http.Server
  /-- The answers that are laid down; where there is none the connection is dropped. -/
  answers : List (Option Http.Response)
  /-- The answer when no more are laid down. -/
  lastAnswer : Http.Response
  /-- The messages that the server has received. -/
  received : List Http.Message
  /-- The commands that have been run. -/
  commands : List (List String)
  /-- The texts that have been shown. -/
  shown : List (World.Stream × String)

namespace Scenario

open World

def settingsFile : Path := ⟨".env"⟩

/-- Change the files, if that is possible. -/
def change (s : Scenario) (result : Except Files.Failure Files.Tree) :
    Except Files.Failure Unit × Scenario :=
  match result with
  | .ok files => (.ok (), { s with files := files })
  | .error e => (.error e, s)

/-- Run a program; it must exist and be one. -/
def launch (s : Scenario) (program : Path) (arguments : List String) :
    Except Files.Failure (Option Int) × Scenario :=
  if (program.text :: arguments).any (·.toList.contains '\x00') then (.error .zeroInCommand, s)
  else match s.files.program program arguments with
    | .error e => (.error e, s)
    | .ok p =>
      (.ok (p.exitCode arguments), { s with commands := s.commands ++ [program.text :: arguments] })

/-- The server that reads what is sent, unless it is secure. -/
def reader? : Http.Connection → Option Http.Server
  | .direct server isSecure => if isSecure then none else some server
  | .relayed proxy => some proxy.server
  | .tunnelled .. => none

def exchange (s : Scenario) (connection : Http.Connection) (message : Http.Message) :
    Option Http.Response × Scenario :=
  if (reader? connection).any (· ∈ s.servers) then
    let s := { s with received := s.received ++ [message] }
    match s.answers with
    | [] => (some s.lastAnswer, s)
    | answer :: answers => (answer, { s with answers := answers })
  else (none, s)

def print (s : Scenario) (stream : Stream) (text : String) : Scenario :=
  { s with shown := s.shown ++ [(stream, text)] }

def reply (s : Scenario) : (q : Request) → Reply q × Scenario
  | .startWorkers _ => (.ok (), s)
  | .readFile path => (s.files.read path, s)
  | .readSettings =>
    (if s.files.isFile settingsFile then (s.files.read settingsFile).toOption else none, s)
  | .fileNames folder => (s.files.fileNames? folder, s)
  | .makeFolders path => s.change (s.files.makeFolders path)
  | .writeFile path content => s.change (s.files.write path (Utf8.encode content))
  | .launch program arguments => s.launch program arguments
  | .exchange connection message => s.exchange connection message
  | .print .output text => ((), s.print .output text)
  | .print .errors text => (true, s.print .errors text)

def peer : Peer Request Reply Scenario := ⟨reply⟩

/-- The value of a dialogue in a scenario, and what has become of it. -/
def play {α : Type} (s : Scenario) (d : WorldDialogue α) : α × Scenario :=
  let outcome := d.run peer s
  (outcome.value, outcome.state)

def textOn (s : Scenario) (stream : Stream) : String :=
  String.join ((s.shown.filter (·.1 = stream)).map (·.2))

end Scenario

end Ingest
