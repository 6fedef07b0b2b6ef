import ColumnLint.Offense
import ColumnLint.Settings

/-!
# The rule of mismatched columns

Columns of the same name should have the same type and size everywhere. The rule takes the
occurrences that the settings leave in, and reports those of contested names; with
`minorityOnly` the ones that have the dominant signature are left out.
-/

namespace ColumnLint

/-- The name of the rule. -/
def mismatchedColumnsRule : String := "SRD0047"

/-- The place of an offense: with database and schema if the table is known. -/
def Offense.location (o : Offense) : Location :=
  match o.origin with
  | .declared t _ => ⟨t.database, some t.schema, t.name, some o.name⟩
  | .described _ _ => ⟨none, none, o.table, some o.name⟩

/-- The evidence for an offense. -/
def Offense.evidence (o : Offense) : Members := [
  ("table", .text o.table),
  ("column", .text o.name),
  ("this_signature", .text o.signature),
  ("dominant_signature", .text o.dominantSignature),
  ("definition_count", .int o.definitionCount),
  ("occurrence_of_this_signature", .int o.occurrencesOfSignature),
  ("dominant_count", .int o.dominantCount),
  ("total_occurrences", .int o.totalOccurrences)]

/-- The finding on an offense. -/
def Offense.finding (o : Offense) (severity : Severity) : Finding where
  rule := mismatchedColumnsRule
  kind := .mismatchedColumn
  severity := severity
  location := o.location
  evidence := o.evidence
  description := o.message

/-- The occurrences that the rule looks at. -/
def Settings.occurrences (s : Settings) (tables : List Table) : List Occurrence :=
  occurrencesOf tables (some mismatchedColumnsRule) s.exclusion

/-- The findings of the rule, in the order of the tables and their columns. -/
def mismatchedColumnFindings (tables : List Table) (s : Settings) : List Finding :=
  ((mismatchedColumns (s.occurrences tables)).filter fun o => !s.minorityOnly || o.isMinority).map
    (·.finding s.severity)

/-- All rules. -/
def rules : List (List Table → Settings → List Finding) :=
  [mismatchedColumnFindings]

/-- The findings of all rules. -/
def lint (tables : List Table) (s : Settings) : List Finding :=
  rules.flatMap fun rule => rule tables s

end ColumnLint
