import Ingest.Dialogue
import Ingest.Files.Failure
import Ingest.Http.Message
import Ingest.Path
/-!
# The world

What the tools ask of the machine they run on: files, programs, servers and the terminal.
-/

namespace Ingest

namespace World

/-- Where text is shown. -/
inductive Stream where
  | output
  | errors
  deriving DecidableEq, Repr

inductive Request where
  /-- Start the threads that do the work: as many as are wanted, or as the machine finds fit. -/
  | startWorkers (count : Option Nat)
  | readFile (path : Path)
  /-- The settings file of the working folder or of a folder above it. -/
  | readSettings
  | fileNames (folder : Path)
  | makeFolders (path : Path)
  | writeFile (path : Path) (content : String)
  | launch (program : Path) (arguments : List String)
  | exchange (connection : Http.Connection) (message : Http.Message)
  | print (stream : Stream) (text : String)
  deriving DecidableEq, Repr

/-- The reply to a request.  The names of files are those in a folder, if it is one; a program
gives its exit code, if it ends by itself; a server may not answer; and an error may find no one to
be shown to. -/
def Reply : Request → Type
  | .startWorkers _ => Except Files.Failure Unit
  | .readFile _ => Except Files.Failure Bytes
  | .readSettings => Option Bytes
  | .fileNames _ => Option (List String)
  | .makeFolders _ | .writeFile .. => Except Files.Failure Unit
  | .launch .. => Except Files.Failure (Option Int)
  | .exchange .. => Option Http.Response
  | .print .output _ => Unit
  | .print .errors _ => Bool

def Request.isEffect : Request → Bool
  | .startWorkers _ | .readFile _ | .readSettings | .fileNames _ => false
  | _ => true

end World

abbrev WorldDialogue := Dialogue World.Request World.Reply

end Ingest
