import ColumnLint.Exclusion
import ColumnLint.Finding
import ColumnLint.Sql.Dialect

/-!
# Settings

What a linter can be told: the dialect of SQL sources, the severity of its findings, the
severity from which on a run fails, whether only minority definitions are reported, and what
is left out.
-/

namespace ColumnLint

open ColumnLint.Text

/-- From which severity on a run fails. -/
inductive Threshold where
  | never
  | atLeast (s : Severity)
  deriving DecidableEq, Repr

namespace Threshold

/-- The thresholds from the strictest finding down to none. -/
def all : List Threshold := [.atLeast .high, .atLeast .medium, .atLeast .low, .never]

/-- The word for a threshold. -/
def name : Threshold → String
  | .never => "NONE"
  | .atLeast s => s.name

/-- The threshold that a word stands for. -/
def ofName? (word : String) : Option Threshold :=
  all.find? (·.name = word)

end Threshold

/-- The settings of a linter. -/
structure Settings where
  dialect : Sql.Dialect
  severity : Severity
  failOn : Threshold
  minorityOnly : Bool
  excludeTables : List String
  excludeColumns : List String
  deriving DecidableEq, Repr

namespace Settings

/-- The settings of a linter that is told nothing. -/
def standard : Settings where
  dialect := .tsql
  severity := .medium
  failOn := .atLeast .medium
  minorityOnly := false
  excludeTables := []
  excludeColumns := []

/-- What the settings leave out. -/
def exclusion (s : Settings) : Exclusion :=
  ⟨s.excludeTables, s.excludeColumns⟩

/-! ### Reading -/

/-- A supported dialect by its name, in any case. -/
def readDialect : Reader Sql.Dialect := fun v =>
  (Reader.text v).andThen fun s =>
    let word := lower s
    match Sql.Dialect.supported.find? (·.name = word) with
    | some d => .valid d
    | none =>
      .fault (.refused ("Unsupported dialect '" ++ word ++ "'. Supported: " ++
        ", ".intercalate (Sql.Dialect.supported.map Sql.Dialect.name)))

/-- A severity by its word, in any case. -/
def readSeverity : Reader Severity
  | .text s => Severity.reader (.text (upper s))
  | v => Severity.reader v

/-- A threshold by its word, in any case. -/
def readThreshold : Reader Threshold := fun v =>
  (Reader.text v).andThen fun s =>
    let word := upper s
    match Threshold.ofName? word with
    | some t => .valid t
    | none =>
      .fault (.refused ("fail_on must be one of " ++
        ", ".intercalate (Threshold.all.map Threshold.name) ++ ", got '" ++ word ++ "'"))

/-- The names of the settings. -/
def fields : List String :=
  ["dialect", "severity", "fail_on", "minority_only", "exclude_tables", "exclude_columns"]

/-- The settings that the members describe; members of other names are refused. -/
def read (m : Members) : Validated Settings :=
  (fun dialect severity failOn minorityOnly tables columns () =>
      ⟨dialect, severity, failOn, minorityOnly, tables, columns⟩)
    <$> m.optional "dialect" standard.dialect readDialect
    <*> m.optional "severity" standard.severity readSeverity
    <*> m.optional "fail_on" standard.failOn readThreshold
    <*> m.optional "minority_only" standard.minorityOnly Reader.boolean
    <*> m.optional "exclude_tables" standard.excludeTables (Reader.list Reader.text)
    <*> m.optional "exclude_columns" standard.excludeColumns (Reader.list Reader.text)
    <*> m.onlyFields fields

/-- Settings as documents describe them. -/
def shape : Shape Settings :=
  ⟨"LintConfig", "colcheck.config.settings", read⟩

end Settings

end ColumnLint
