import ColumnLint.Document.Yaml.Reader
import ColumnLint.Files.Tree
import ColumnLint.Settings
import ColumnLint.Text.Utf8

/-!
# Where settings come from

Settings are taken from the file that is asked for, else from the project's file, else from
the user's file, else from environment variables, else they are the standard ones: the first
source that is there counts alone. Overrides come last; a list is added to the list that is
there, anything else takes its place.

How the octets of a file are read as a document is left open (`FileReading`, `loadBy`). Files
are read as YAML in UTF-8 (`yamlReading`, `load`), the whole text at once: a reader that takes
the octets piece by piece can meet a fault of the text before octets that are no text.
-/

namespace ColumnLint

open ColumnLint.Text

/-- Why settings cannot be loaded. -/
inductive SettingsError where
  | notFound (path : String)
  | unreadable (path : String)
  | undecodable (e : Utf8Error)
  | malformed (path : String)
  /-- A value that does not spell what its kind asks for. -/
  | badValue (fault : Yaml.Fault)
  | notMapping (path : String)
  /-- A list override meets a value without elements. -/
  | notIterable (kind : String)
  /-- The name of a setting is no text. -/
  | nameNotText
  | invalid (problems : List Problem)
  deriving DecidableEq, Repr

/-- The wording of a value that does not spell what its kind asks for. -/
def Yaml.Fault.message : Yaml.Fault → String
  | .malformed => ""
  | .noInteger base text =>
    "invalid literal for int() with base " ++ toString base ++ ": " ++
      String.ofList ((quoted text).toList.take 200)
  | .longInteger digits => Value.longIntegerMessage digits
  | .noFloat text => "could not convert string to float: " ++ quoted text
  | .noNumber => "string index out of range"
  | .noTruthValue word => quoted word
  | .noTimestamp => "'NoneType' object has no attribute 'groupdict'"
  | .outOfRange message => message
  | .other _ message => message

/-- The wording of an error. -/
def SettingsError.message : SettingsError → String
  | .notFound path => "Configuration file not found: " ++ path
  | .unreadable path =>
    "Error reading configuration file: " ++ path ++ "\n[Errno 21] Is a directory: " ++ quoted path
  | .undecodable e => e.message
  | .malformed path => "Invalid YAML configuration: " ++ path
  | .badValue fault => fault.message
  | .notMapping path => "Configuration file must contain a YAML dictionary: " ++ path
  | .notIterable kind => quoted kind ++ " object is not iterable"
  | .nameNotText => "keywords must be strings"
  | .invalid problems => "Invalid configuration:\n" ++ problemsMessage Settings.shape.name problems

namespace Settings

/-- Settings as they were found: entries whose keys need not be texts. -/
abbrev Raw := List (Value × Value)

/-! ### Files -/

/-- Why the octets of a file are not read as a document. -/
inductive FileFault where
  /-- The octets are no text. -/
  | undecodable (e : Utf8Error)
  /-- The text is no document. -/
  | noDocument (fault : Yaml.Fault)
  deriving DecidableEq, Repr

/-- The error that loading ends with for a fault in the file at a path. -/
def FileFault.error (path : String) : FileFault → SettingsError
  | .undecodable e => .undecodable e
  | .noDocument .malformed => .malformed path
  | .noDocument fault => .badValue fault

/-- A way to read the octets of a file as a document. -/
abbrev FileReading := List UInt8 → Except FileFault Yaml.Document

/-- The place of a decoding error in a text that is read piece by piece: octets left over at the
end are decoded on their own. -/
def pieceError (e : Utf8Error) : Utf8Error :=
  if e.fault = .truncated then { e with start := 0 } else e

/-- The octets as a YAML text in UTF-8. -/
def yamlReading : FileReading := fun octets =>
  match Utf8.decode octets with
  | .error e => .error (.undecodable (pieceError e))
  | .ok s => (Yaml.parse (String.ofList (unifyLineEnds s.toList))).mapError .noDocument

/-- The settings in a file's octets. -/
def rawOfOctets (reading : FileReading) (path : String) (octets : List UInt8) :
    Except SettingsError Raw :=
  match reading octets with
  | .error fault => .error (fault.error path)
  | .ok .nothing => .ok []
  | .ok (.mapping entries) => .ok entries
  | .ok .other => .error (.notMapping path)

/-- The settings of the file at a path. -/
def rawOfFile (reading : FileReading) (s : Surroundings) (path : String) :
    Except SettingsError Raw :=
  match s.entryAt path with
  | none => .error (.notFound path)
  | some (.directory _) => .error (.unreadable path)
  | some (.file octets) => rawOfOctets reading path octets

/-- The paths of the project's and the user's file. -/
def usualPaths (s : Surroundings) : List String :=
  [s.workingDirectory ++ "/.colcheck.yaml", s.homeDirectory ++ "/.colcheck/config.yaml"]

/-! ### Environment variables -/

/-- The full name of a variable. -/
def fullVariable (name : String) : String := "COLCHECK_" ++ name

/-- The names of all variables that are looked at. -/
def variableNames : List String :=
  ["DIALECT", "SEVERITY", "FAIL_ON", "MINORITY_ONLY", "EXCLUDE_TABLES", "EXCLUDE_COLUMNS"].map
    fullVariable

/-- The value of a variable, if it has one that is not empty. -/
def setVariable (s : Surroundings) (name : String) : Option String :=
  (s.environment (fullVariable name)).filter (· ≠ "")

/-- The words that turn a setting on. -/
def isOn (word : String) : Bool :=
  ["1", "true", "yes", "on"].contains (lower (trim word))

/-- The parts of a text between commas, trimmed, without empty ones. -/
def listed (s : String) : List String :=
  ((piecesOf ',' s.toList).map fun p => String.ofList (trimChars p)).filter (· ≠ "")

/-- The settings in environment variables. -/
def rawOfVariables (s : Surroundings) : Raw :=
  let text (name key : String) : Option (Value × Value) :=
    (setVariable s name).map fun v => (.text key, .text v)
  let texts (name key : String) : Option (Value × Value) :=
    (setVariable s name).map fun v => (.text key, .list ((listed v).map .text))
  [ text "DIALECT" "dialect",
    text "SEVERITY" "severity",
    text "FAIL_ON" "fail_on",
    (setVariable s "MINORITY_ONLY").map fun v => (.text "minority_only", .bool (isOn v)),
    texts "EXCLUDE_TABLES" "exclude_tables",
    texts "EXCLUDE_COLUMNS" "exclude_columns"].filterMap id

/-! ### Sources in order -/

/-- The settings of the first source that is there, with files read in a given way. -/
def rawBy (reading : FileReading) (s : Surroundings) (file : Option String) :
    Except SettingsError Raw :=
  match file.filter (· ≠ "") with
  | some path => rawOfFile reading s path
  | none =>
    match (usualPaths s).find? fun p => (s.entryAt p).isSome with
    | some path => rawOfFile reading s path
    | none => .ok (rawOfVariables s)

/-- The settings of the first source that is there. -/
def raw : Surroundings → Option String → Except SettingsError Raw :=
  rawBy yamlReading

/-- The value of a setting. -/
def Raw.get? (r : Raw) (key : String) : Option Value :=
  (r.find? fun e => Yaml.sameKey e.1 (.text key)).map Prod.snd

/-- Puts an override in: nothing is left out, a list is added, anything else takes the place. -/
def Raw.override (r : Raw) (key : String) (v : Value) : Except SettingsError Raw :=
  match v with
  | .null => .ok r
  | .list added =>
    let present := (r.get? key).getD (.list [])
    match present.elements? with
    | some items => .ok (Yaml.putEntry (.text key) (.list (items ++ added)) r)
    | none => .error (.notIterable present.kindName)
  | _ => .ok (Yaml.putEntry (.text key) v r)

/-- The settings with the overrides put in. -/
def Raw.overrideAll (r : Raw) (overrides : Members) : Except SettingsError Raw :=
  overrides.foldlM (fun r o => r.override o.1 o.2) r

/-- The settings that raw ones describe. -/
def ofRaw (r : Raw) : Except SettingsError Settings :=
  match Yaml.members? r with
  | none => .error .nameNotText
  | some members =>
    match read members with
    | .valid s => .ok s
    | .invalid problems => .error (.invalid problems)

/-- The settings of a run, with files read in a given way. -/
def loadBy (reading : FileReading) (s : Surroundings) (file : Option String)
    (overrides : Members) : Except SettingsError Settings := do
  ofRaw (← (← rawBy reading s file).overrideAll overrides)

/-- The settings of a run. -/
def load : Surroundings → Option String → Members → Except SettingsError Settings :=
  loadBy yamlReading

end Settings

end ColumnLint
