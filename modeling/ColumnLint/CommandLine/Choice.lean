import ColumnLint.Finding
import ColumnLint.Settings

/-!
# Options of the command line

The options that a run can be given: the names of each, and the words that may follow it.
-/

namespace ColumnLint.CommandLine

/-- An option. -/
inductive Choice where
  | help
  | config
  | dialect
  | format
  | severity
  | failOn
  | minorityOnly
  | excludeTable
  | excludeColumn
  | verbose
  deriving DecidableEq, Repr

namespace Choice

/-- The names of an option; short ones begin with one dash, long ones with two. -/
def names : Choice → List String
  | .help => ["-h", "--help"]
  | .config => ["--config"]
  | .dialect => ["--dialect"]
  | .format => ["--format"]
  | .severity => ["--severity"]
  | .failOn => ["--fail-on"]
  | .minorityOnly => ["--minority-only"]
  | .excludeTable => ["--exclude-table"]
  | .excludeColumn => ["--exclude-column"]
  | .verbose => ["-v", "--verbose"]

/-- Whether a value follows an option. -/
def takesValue : Choice → Bool
  | .help | .minorityOnly | .verbose => false
  | _ => true

/-- The values that an option may have; none are listed if it may have any. -/
def values : Choice → List String
  | .dialect => Sql.Dialect.supported.map Sql.Dialect.name
  | .format => ["json", "markdown"]
  | .severity => ["HIGH", "MEDIUM", "LOW"]
  | .failOn => Threshold.all.map Threshold.name
  | _ => []

/-- The options before a command. -/
def general : List Choice := [.help]

/-- The options of the command that lints. -/
def ofLint : List Choice := [
  .help, .config, .dialect, .format, .severity, .failOn, .minorityOnly, .excludeTable,
  .excludeColumn, .verbose]

end Choice

end ColumnLint.CommandLine
