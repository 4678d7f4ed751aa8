import Ingest.Path
import Ingest.Text.Similarity
import Ingest.Text.Terminal
/-!
# Command-line arguments

Both tools take one option, the path of their configuration, and can print how they are used and
which version they are.  Arguments are read from left to right, and the first that is wrong counts.
-/

namespace Ingest.CommandLine

inductive Tool where
  | importData
  | prepareAll
  deriving DecidableEq, Repr

namespace Tool

def name : Tool → String
  | .importData => "import-data"
  | .prepareAll => "prepare-all"

def ofName? (name : String) : Option Tool := [importData, prepareAll].find? (·.name = name)

def purpose : Tool → String
  | .importData => "Upload files into eCloud: providers, datasets, records, representations and files"
  | .prepareAll =>
    "Prepare Solr, Elasticsearch, Kafka and Storm, submit the processing task and import data"

def subject : Tool → String
  | .importData => "import"
  | .prepareAll => "deployment"

def version : String := "0.1.0"

end Tool

inductive OptionName where
  | config
  | help
  | version
  deriving DecidableEq, Repr

/-- Why there is nothing to run: a question about the tool, or arguments that cannot be read.  For
an unknown option there may be a similar one that was meant. -/
inductive UsageProblem where
  | help
  | version
  | missingOption
  | missingValue
  | repeated
  | unknown (argument : String) (similar : Option OptionName)
  | unneededValue (option : OptionName) (value : String)
  deriving DecidableEq, Repr

/-! ## Reading -/

def longNames : List (String × OptionName) :=
  [("config-file", .config), ("help", .help), ("version", .version)]

def letters : List (Char × OptionName) := [('c', .config), ('h', .help), ('V', .version)]

def OptionName.long (option : OptionName) : String :=
  ((longNames.find? (·.2 = option)).map fun (name, _) => "--" ++ name).getD ""

/-- How like an unknown name a known one must be to be what was meant. -/
def likeEnough : Text.Likeness := ⟨7, 10⟩

/-- The option whose long name is most like an unknown one. -/
def similarOption? (name : String) : Option OptionName :=
  (Text.mostLike? likeEnough name (longNames.map (·.1))).bind fun name =>
    longNames.lookup name

/-- How far arguments have been read: the path that is settled, and an option whose value is not
settled yet. -/
structure Progress where
  path : Option String
  pending : Option (Option String)
  deriving DecidableEq, Repr

/-- Settle a path: it may be given once, and not as an empty text. -/
def Progress.settle (p : Progress) (value : String) : Except UsageProblem Progress :=
  if p.path.isSome then .error .repeated
  else if value.isEmpty then .error .missingValue
  else .ok { p with path := some value }

/-- Settle an option that was read before. -/
def Progress.finish (p : Progress) : Except UsageProblem Progress :=
  match p.pending with
  | none => .ok p
  | some none => .error .missingValue
  | some (some value) => { p with pending := none }.settle value

/-- Read an option, perhaps with the value that is attached to it. -/
def Progress.option (p : Progress) (name : OptionName) (attached : Option String) :
    Except UsageProblem Progress := do
  let p ← p.finish
  match name with
  | .help => .error .help
  | .version => .error .version
  | .config =>
    match attached with
    | some value => p.settle value
    | none => return { p with pending := some none }

def Progress.long (p : Progress) (cs : List Char) : Except UsageProblem Progress :=
  let name := String.ofList (cs.takeWhile (· ≠ '='))
  let attached := match cs.dropWhile (· ≠ '=') with
    | _ :: value => some (String.ofList value)
    | [] => none
  match longNames.lookup name, attached with
  | none, _ => .error (.unknown ("--" ++ name) (similarOption? name))
  | some .config, attached => p.option .config attached
  | some option, none => p.option option none
  | some option, some value => .error (.unneededValue option value)

/-- Read an option by its letter; what follows the letter is its value. -/
def Progress.letter (p : Progress) (c : Char) (rest : List Char) : Except UsageProblem Progress :=
  match letters.lookup c with
  | none => .error (.unknown (String.ofList ['-', c]) none)
  | some .config =>
    let value := match rest with
      | '=' :: value => some value
      | [] => none
      | value => some value
    p.option .config (value.map String.ofList)
  | some option => p.option option none

def Progress.word (p : Progress) (argument : String) : Except UsageProblem Progress :=
  match p.pending with
  | some none => .ok { p with pending := some (some argument) }
  | _ => .error (.unknown argument none)

/-- Read the arguments one after the other.  After a double dash none is an option. -/
def readArguments (p : Progress) : List String → Except UsageProblem Progress
  | [] => p.finish
  | argument :: rest => do
    match argument.toList with
    | ['-', '-'] =>
      match rest with
      | [] => p.finish
      | word :: _ => .error (.unknown word none)
    | '-' :: '-' :: cs => readArguments (← p.long cs) rest
    | '-' :: c :: cs => readArguments (← p.letter c cs) rest
    | _ => readArguments (← p.word argument) rest

def configPath (arguments : List String) : Except UsageProblem Path := do
  let p ← readArguments ⟨none, none⟩ arguments
  match p.path with
  | some text => return ⟨text⟩
  | none => .error .missingOption

/-! ## Texts -/

def optionUsage : String := "--config-file <CONFIG_FILE>"

/-- How the tool is called, perhaps with another option. -/
def usageLine (t : Tool) (other : Option OptionName) : String :=
  let more := match other with
    | some .config | none => ""
    | some option => " " ++ option.long
  s!"Usage: {t.name} {optionUsage}{more}\n"

def moreInformation : String := "For more information, try '--help'.\n"

/-- The last line of every complaint. -/
def helpHint : String := "Use --help for more information.\n"

def helpText (t : Tool) : String :=
  s!"{t.purpose}\n\n{usageLine t none}\nOptions:\n" ++
  s!"  -c, {optionUsage}  Path to the JSON {t.subject} configuration\n" ++
  "  -h, --help                       Print help\n" ++
  "  -V, --version                    Print version\n"

def versionText (t : Tool) : String := s!"{t.name} {Tool.version}\n"

/-- A complaint with the way the tool is called, perhaps with another option. -/
def complaint (t : Tool) (other : Option OptionName) (what : String) : String :=
  s!"error: {what}\n\n{usageLine t other}\n{moreInformation}{helpHint}"

def tip : Option OptionName → String
  | some option => s!"\n\n  tip: a similar argument exists: '{option.long}'"
  | none => ""

def UsageProblem.outputText (t : Tool) : UsageProblem → String
  | .help => helpText t
  | .version => versionText t
  | _ => ""

/-- What is shown among the errors.  Arguments are shown as plain text. -/
def UsageProblem.errorText (t : Tool) : UsageProblem → String
  | .help | .version => ""
  | .missingOption =>
    complaint t none s!"the following required arguments were not provided:\n  {optionUsage}"
  | .missingValue =>
    s!"error: a value is required for '{optionUsage}' but none was supplied\n\n" ++
      moreInformation ++ helpHint
  | .repeated => complaint t none s!"the argument '{optionUsage}' cannot be used multiple times"
  | .unknown argument similar =>
    complaint t similar
      s!"unexpected argument '{Text.Terminal.plain argument}' found{tip similar}"
  | .unneededValue option value =>
    let value := Text.Terminal.plain value
    complaint t (some option)
      s!"unexpected value '{value}' for '{option.long}' found; no more were expected"

end Ingest.CommandLine
