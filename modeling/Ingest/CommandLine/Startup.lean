import Ingest.CommandLine.Settings
import Ingest.Text.Quoted
import Ingest.World
/-!
# Starting up

Before a tool reads its arguments it starts its workers, and then it adds the settings file to its
environment.  A tool that cannot do so breaks off.
-/

namespace Ingest.CommandLine

/-! ## Numbers of workers -/

/-- Why a text names no number of workers. -/
inductive CountDefect where
  | empty
  | notDigit
  | tooLarge
  | zero
  deriving DecidableEq, Repr

/-- The variable that names the number of workers. -/
def workersVariable : String := "TOKIO_WORKER_THREADS"

def maxCount : Nat := 0xFFFFFFFFFFFFFFFF

/-- Read digits behind those that make up a number. -/
def readDigits (n : Nat) : List Char → Except CountDefect Nat
  | [] => .ok n
  | c :: rest =>
    if c.isDigit then
      let n := n * 10 + (c.toNat - 48)
      if n ≤ maxCount then readDigits n rest else .error .tooLarge
    else .error .notDigit

/-- The digits of a number, without a plus sign in front of them. -/
def unsigned : List Char → List Char
  | '+' :: c :: rest => c :: rest
  | cs => cs

/-- Read a number of workers; there must be one at least. -/
def readCount (text : String) : Except CountDefect Nat :=
  if text.toList.isEmpty then .error .empty
  else match readDigits 0 (unsigned text.toList) with
    | .error defect => .error defect
    | .ok n => if n = 0 then .error .zero else .ok n

/-! ## Breaking off -/

/-- Why a tool breaks off. -/
inductive Breakdown where
  | workerCount (value : String) (defect : CountDefect)
  | workers (cause : Files.Failure)
  | setting (what : Settings.Unsettable)
  deriving DecidableEq, Repr

def CountDefect.message (value : String) : CountDefect → String
  | .zero => s!"\"{workersVariable}\" cannot be set to 0"
  | .empty => malformed "cannot parse integer from empty string"
  | .notDigit => malformed "invalid digit found in string"
  | .tooLarge => malformed "number too large to fit in target type"
where
  malformed (error : String) : String :=
    s!"\"{workersVariable}\" must be usize, error: {error}, value: {value}"

def Settings.Unsettable.message (what : Settings.Unsettable) : String :=
  let name := Text.quoted what.name
  let value := Text.quoted what.value
  s!"failed to set environment variable \x60{name}\x60 to \x60{value}\x60: " ++
    Files.Failure.zeroInPath.message

def Breakdown.message : Breakdown → String
  | .workerCount value defect => defect.message value
  | .workers cause => s!"OS can't spawn worker thread: {cause.message}"
  | .setting what => what.message

/-- What is shown of a breakdown, without the place in the program. -/
def Breakdown.text (b : Breakdown) : String :=
  s!"\nthread 'main' panicked:\n{b.message}\n"

/-! ## Getting under way -/

/-- The number of workers that the environment asks for, if it asks for any. -/
def wantedWorkers (environment : Settings.Variables) : Except Breakdown (Option Nat) :=
  match environment.lookup workersVariable with
  | none => .ok none
  | some value =>
    match readCount value with
    | .ok n => .ok (some n)
    | .error defect => .error (.workerCount value defect)

def startWorkers (environment : Settings.Variables) : WorldDialogue (Except Breakdown Unit) :=
  match wantedWorkers environment with
  | .error breakdown => .done (.error breakdown)
  | .ok count => .ask (.startWorkers count) fun started =>
    .done (Except.mapError .workers started)

/-- The environment with what the settings file adds to it. -/
def settledEnvironment (environment : Settings.Variables) :
    WorldDialogue (Except Breakdown Settings.Variables) :=
  .ask .readSettings fun
    | none => .done (.ok environment)
    | some bytes => .done ((Settings.extend environment bytes).mapError .setting)

def startUp (environment : Settings.Variables) :
    WorldDialogue (Except Breakdown Settings.Variables) := do
  match ← startWorkers environment with
  | .error breakdown => return .error breakdown
  | .ok () => settledEnvironment environment

end Ingest.CommandLine
