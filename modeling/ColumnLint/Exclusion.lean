import ColumnLint.Occurrence
import ColumnLint.Text.Glob

/-!
# Exclusions

Which columns of a schema are looked at. Patterns exclude tables by any of their names and
columns by their own or their qualified name, always without regard to case; a column can
also suppress a rule, or all rules, itself.
-/

namespace ColumnLint

open ColumnLint.Text

/-- The names by which a table can be meant: its own, with its schema, and with its database and
schema. -/
def qualifiedNames (table : String) (schema database : Option String) : List String :=
  match schema.filter (· ≠ "") with
  | none => [table]
  | some s =>
    [table, s ++ "." ++ table] ++
      match database.filter (· ≠ "") with
      | none => []
      | some d => [d ++ "." ++ s ++ "." ++ table]

/-- Whether a pattern matches a name, without regard to case. -/
def matchesAny (names patterns : List String) : Bool :=
  names.any fun n => patterns.any fun p => Glob.accepts (lower p) (lower n)

/-- The word that suppresses all rules for a column. -/
def everyRule : String := "*"

/-- Whether the column suppresses the rule, or all rules. -/
def Column.suppresses (c : Column) (rule : Option String) : Bool :=
  let ignored := c.ignored.map upper
  ignored.contains everyRule ||
    match rule.filter (· ≠ "") with
    | some r => ignored.contains (upper r)
    | none => false

/-- Patterns for tables and for columns to leave out. -/
structure Exclusion where
  tables : List String
  columns : List String
  deriving DecidableEq, Repr

namespace Exclusion

/-- Whether the table is left out. -/
def coversTable (e : Exclusion) (t : Table) : Bool :=
  matchesAny (qualifiedNames t.name (some t.schema) t.database) e.tables

/-- Whether the column of the table is left out. -/
def coversColumn (e : Exclusion) (t : Table) (c : Column) : Bool :=
  matchesAny [c.name, t.name ++ "." ++ c.name] e.columns

end Exclusion

/-- The occurrences of all columns that are neither left out nor suppress the rule, table by
table. -/
def occurrencesOf (tables : List Table) (rule : Option String) (e : Exclusion) :
    List Occurrence :=
  (tables.filter fun t => !e.coversTable t).flatMap fun t =>
    (t.columns.filter fun c => !(c.suppresses rule || e.coversColumn t c)).map
      (Occurrence.ofColumn t)

end ColumnLint
