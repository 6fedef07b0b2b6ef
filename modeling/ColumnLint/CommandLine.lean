import ColumnLint.CommandLine.Arguments
import ColumnLint.CommandLine.Help
import ColumnLint.Report.Json
import ColumnLint.Report.Markdown
import ColumnLint.Settings.Load
import ColumnLint.Snapshot

/-!
# The command line

A run: arguments and surroundings go in, printed texts and an exit code come out
(`CommandLine.run`). A run that lints loads the settings, finds and takes in the sources, and
prints the report. It ends with 1 if the report fails at the threshold of the settings or if a
step cannot be done, and with 2 if the arguments are wrong.
-/

namespace ColumnLint.CommandLine

/-- What a run leaves behind. -/
structure Outcome where
  exitCode : Nat
  /-- What is printed. -/
  output : String
  /-- What is printed as an error. -/
  errors : String
  notices : List Notice
  deriving Repr

/-- Why a run that lints prints no report. -/
inductive LintError where
  | settings (e : SettingsError)
  | source (e : SourceError)
  | snapshot (e : SnapshotError)
  | report (e : EvidenceFault)

/-- The wording of an error. -/
def LintError.message : LintError → String
  | .settings e => e.message
  | .source e => e.message
  | .snapshot e => e.message
  | .report e => e.message

namespace LintRequest

/-- The patterns of an option as an override; none are told if there are none. -/
def patterns (ps : List String) : Value :=
  if ps.isEmpty then .null else .list (ps.map .text)

/-- What a request tells about the settings. -/
def overrides (q : LintRequest) : Members := [
  ("dialect", .ofText? q.dialect),
  ("severity", .ofText? q.severity),
  ("fail_on", .ofText? q.failOn),
  ("minority_only", if q.minorityOnly then .bool true else .null),
  ("exclude_tables", patterns q.excludeTables),
  ("exclude_columns", patterns q.excludeColumns)]

/-- The settings of a request. -/
def settings (s : Surroundings) (q : LintRequest) : Except LintError Settings :=
  (Settings.load s q.config q.overrides).mapError .settings

/-- The report that a request asks for, with the notices on the way to it. -/
def report (s : Surroundings) (q : LintRequest) (settings : Settings) :
    Except LintError Report × List Notice :=
  match Source.ofPaths s.entryAt q.paths with
  | (.error e, notices) => (.error (.source e), notices)
  | (.ok sources, notices) =>
    match Snapshot.ofSources settings.dialect.name sources with
    | (.error e, more) => (.error (.snapshot e), notices ++ more)
    | (.ok snapshot, more) =>
      (.ok (analyze snapshot.tables settings snapshot.warnings), notices ++ more)

/-- A report in the form that a request asks for. -/
def printed (q : LintRequest) (r : Report) : Except LintError String :=
  match q.format with
  | .json => .ok r.toJson
  | .markdown => r.toMarkdown.mapError .report

/-- What a run leaves behind that cannot be done. -/
def failed (e : LintError) (notices : List Notice) : Outcome :=
  ⟨1, "", "Error: " ++ e.message ++ "\n", notices⟩

/-- The run of a request. -/
def run (s : Surroundings) (q : LintRequest) : Outcome :=
  match q.settings s with
  | .error e => failed e []
  | .ok settings =>
    match q.report s settings with
    | (.error e, notices) => failed e notices
    | (.ok r, notices) =>
      match q.printed r with
      | .error e => failed e notices
      | .ok text => ⟨if r.fails settings.failOn then 1 else 0, text ++ "\n", "", notices⟩

end LintRequest

/-- What a run leaves behind that has wrong arguments. -/
def refused (program : String) (e : UsageError) : Outcome :=
  ⟨2, "", program ++ ": error: " ++ e.message ++ "\n", []⟩

/-- A run with arguments. -/
def run (s : Surroundings) (arguments : List String) : Outcome :=
  match request arguments with
  | .help => ⟨0, generalHelp, "", []⟩
  | .lintHelp => ⟨0, lintHelp, "", []⟩
  | .nothing => ⟨1, generalHelp, "", []⟩
  | .wrong e => refused "colcheck" e
  | .lintWrong e => refused "colcheck lint" e
  | .lint q => q.run s

end ColumnLint.CommandLine
