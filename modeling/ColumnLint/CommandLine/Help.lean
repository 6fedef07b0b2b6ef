import ColumnLint.CommandLine.Choice

/-!
# Help texts

What the command line tells about itself.
-/

namespace ColumnLint.CommandLine

/-- The values of an option as they stand in a usage. -/
def Choice.listed (o : Choice) : String := "\x7b" ++ ",".intercalate o.values ++ "\x7d"

/-- Lines as a text in which every line ends. -/
def textOfLines (lines : List String) : String := String.join (lines.map (· ++ "\n"))

/-- What the program tells about itself. -/
def generalHelp : String := textOfLines [
  "usage: colcheck [-h] \x7blint\x7d ...",
  "",
  "colcheck - cross-table column type consistency linter",
  "",
  "positional arguments:",
  "  \x7blint\x7d",
  "    lint      Report columns whose type differs from other columns of the same",
  "              name",
  "",
  "options:",
  "  -h, --help  show this help message and exit",
  "",
  "Examples:",
  "  colcheck lint schema/",
  "  colcheck lint tables.sql --dialect snowflake --format markdown",
  "  colcheck lint tables.json --exclude-table 'audit.*' --minority-only"]

/-- What the command that lints tells about itself. -/
def lintHelp : String := textOfLines [
  "usage: colcheck lint [-h] [--config CONFIG]",
  "                     [--dialect " ++ Choice.dialect.listed ++ "]",
  "                     [--format " ++ Choice.format.listed ++ "] [--severity " ++
    Choice.severity.listed ++ "]",
  "                     [--fail-on " ++ Choice.failOn.listed ++ "] [--minority-only]",
  "                     [--exclude-table PATTERN] [--exclude-column PATTERN] [-v]",
  "                     paths [paths ...]",
  "",
  "Scan a schema (JSON or SQL DDL files) for mismatched column definitions",
  "",
  "positional arguments:",
  "  paths                 Schema sources: JSON files, SQL DDL files, or",
  "                        directories containing them",
  "",
  "options:",
  "  -h, --help            show this help message and exit",
  "  --config CONFIG       Path to config file (default: ./.colcheck.yaml or",
  "                        ~/.colcheck/config.yaml)",
  "  --dialect " ++ Choice.dialect.listed,
  "                        SQL dialect for parsing SQL files (default: tsql)",
  "  --format " ++ Choice.format.listed,
  "                        Output format (default: json)",
  "  --severity " ++ Choice.severity.listed,
  "                        Severity assigned to findings (default: MEDIUM)",
  "  --fail-on " ++ Choice.failOn.listed,
  "                        Exit with code 1 if a finding meets or exceeds this",
  "                        severity (default: MEDIUM)",
  "  --minority-only       Only report columns that differ from the dominant",
  "                        definition",
  "  --exclude-table PATTERN",
  "                        Skip tables matching PATTERN (TABLE, SCHEMA.TABLE;",
  "                        wildcards allowed). Repeatable.",
  "  --exclude-column PATTERN",
  "                        Skip columns matching PATTERN (COLUMN or TABLE.COLUMN;",
  "                        wildcards allowed). Repeatable.",
  "  -v, --verbose         Enable debug logging on stderr"]

end ColumnLint.CommandLine
