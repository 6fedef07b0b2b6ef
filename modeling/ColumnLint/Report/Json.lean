import ColumnLint.Report
import ColumnLint.Document.Json.Printer

/-!
# Reports as JSON

A report as a document, and that document as JSON text.
-/

namespace ColumnLint

/-- A text that may be absent. -/
def Value.ofText? : Option String → Value
  | none => .null
  | some s => .text s

/-- A place as a document. -/
def Location.toValue (l : Location) : Value :=
  .object [
    ("database_name", .ofText? l.database),
    ("schema_name", .ofText? l.schema),
    ("table_name", .text l.table),
    ("column_name", .ofText? l.column)]

/-- A finding as a document. -/
def Finding.toValue (f : Finding) : Value :=
  .object [
    ("rule_id", .text f.rule),
    ("finding_type", .text f.kind.name),
    ("severity", .text f.severity.name),
    ("location", f.location.toValue),
    ("evidence", .object f.evidence),
    ("description", .text f.description)]

namespace Report

/-- A report as a document. -/
def toValue (r : Report) : Value :=
  .object [
    ("classification", .text (className r.classification)),
    ("tables_scanned", .int r.tablesScanned),
    ("finding_count", .int r.findings.length),
    ("counts", .object (r.counts.map fun c => (c.1.name, .int c.2))),
    ("findings", .list (r.findings.map Finding.toValue)),
    ("warnings", .list (r.warnings.map .text))]

/-- A report as JSON text. -/
def toJson (r : Report) : String :=
  Json.print r.toValue

end Report

end ColumnLint
