import ColumnLint.Validation

/-!
# Findings

What a rule reports: where, how severe, and on what evidence.
-/

namespace ColumnLint

/-- How severe a finding is. -/
inductive Severity where
  | low
  | medium
  | high
  deriving DecidableEq, Repr

namespace Severity

/-- The severities from the least to the greatest. -/
def all : List Severity := [.low, .medium, .high]

/-- The place of a severity in their order. -/
def rank : Severity → Nat
  | .low => 1
  | .medium => 2
  | .high => 3

/-- The word for a severity. -/
def name : Severity → String
  | .low => "LOW"
  | .medium => "MEDIUM"
  | .high => "HIGH"

/-- A severity by its word. -/
def reader : Reader Severity :=
  Reader.oneOf (all.map fun s => (s.name, s))

end Severity

/-- What a finding is about. -/
inductive FindingKind where
  | mismatchedColumn
  deriving DecidableEq, Repr

/-- The word for the kind of a finding. -/
def FindingKind.name : FindingKind → String
  | .mismatchedColumn => "MISMATCHED_COLUMN"

/-- The place of a finding in a schema. -/
structure Location where
  database : Option String
  schema : Option String
  table : String
  column : Option String
  deriving DecidableEq, Repr

namespace Location

/-- The parts of the place that are not empty, with dots between. -/
def qualifiedName (l : Location) : String :=
  ".".intercalate (([l.database, l.schema, some l.table, l.column].filterMap id).filter (· ≠ ""))

/-- The place that the members describe. -/
def read (m : Members) : Validated Location :=
  Location.mk
    <$> m.optional "database_name" .none (Reader.nullable Reader.text)
    <*> m.optional "schema_name" .none (Reader.nullable Reader.text)
    <*> m.required "table_name" Reader.text
    <*> m.optional "column_name" .none (Reader.nullable Reader.text)

/-- Places as documents describe them. -/
def shape : Shape Location :=
  ⟨"Location", "colcheck.models.finding", read⟩

end Location

/-- What a rule found. -/
structure Finding where
  rule : String
  kind : FindingKind
  severity : Severity
  location : Location
  evidence : Members
  description : String
  deriving Repr

namespace Finding

/-- The finding that the members describe. -/
def read (m : Members) : Validated Finding :=
  Finding.mk
    <$> m.required "rule_id" Reader.text
    <*> m.required "finding_type" (Reader.oneOf [(FindingKind.name .mismatchedColumn, .mismatchedColumn)])
    <*> m.required "severity" Severity.reader
    <*> m.required "location" Location.shape.nested
    <*> m.required "evidence" Reader.object
    <*> m.required "description" Reader.text

/-- Findings as documents describe them. -/
def shape : Shape Finding :=
  ⟨"Finding", "colcheck.models.finding", read⟩

end Finding

end ColumnLint
