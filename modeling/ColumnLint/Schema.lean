import ColumnLint.Validation
import ColumnLint.Document.Display
import ColumnLint.Text.Case

/-!
# Tables and columns

What a linter knows of a database: tables with their columns in order. A table is told
from others by its database, schema and name without regard to case (`Table.key`).
-/

namespace ColumnLint

open ColumnLint.Text

/-- A column of a table. The names of the table are kept with the column. -/
structure Column where
  database : Option String
  schema : String
  table : String
  name : String
  /-- The declared type without its parameters; a computed column has none. -/
  type : Option String
  params : List String
  nullable : Bool
  ordinal : Int
  /-- The rules that are suppressed for the column; `*` stands for all. -/
  ignored : List String
  deriving DecidableEq, Repr

/-- A table with its columns. -/
structure Table where
  database : Option String
  schema : String
  name : String
  columns : List Column
  deriving DecidableEq, Repr

/-- What tells one table from another. -/
structure TableKey where
  database : String
  schema : String
  name : String
  deriving DecidableEq, Repr

/-- The upper-case database, schema and name; without a database its part is empty. -/
def Table.key (t : Table) : TableKey :=
  ⟨upper (t.database.getD ""), upper t.schema, upper t.name⟩

/-! ### Reading -/

/-- The schema of a table that names none. -/
def commonSchema : String := "PUBLIC"

/-- Type parameters: a list of any values, each taken as text. -/
def readParameters : Reader (List String)
  | .list items => .valid (items.map Value.display)
  | v => Reader.list Reader.text v

/-- The column that the members describe. -/
def Column.read (m : Members) : Validated Column :=
  Column.mk
    <$> m.optional "database_name" none (Reader.nullable Reader.text)
    <*> m.optional "schema_name" commonSchema Reader.text
    <*> m.required "table_name" Reader.text
    <*> m.required "column_name" Reader.text
    <*> m.optional "data_type" none (Reader.nullable Reader.text)
    <*> m.optional "type_parameters" [] readParameters
    <*> m.optional "is_nullable" true Reader.boolean
    <*> m.optional "ordinal_position" 1 Reader.integer
    <*> m.optional "ignored_rules" [] (Reader.list Reader.text)

/-- Columns as documents describe them. -/
def Column.shape : Shape Column :=
  ⟨"ColumnSchema", "colcheck.models.schema", Column.read⟩

/-- The table that the members describe. -/
def Table.read (m : Members) : Validated Table :=
  Table.mk
    <$> m.optional "database_name" none (Reader.nullable Reader.text)
    <*> m.optional "schema_name" commonSchema Reader.text
    <*> m.required "table_name" Reader.text
    <*> m.optional "columns" [] (Reader.list Column.shape.nested)

/-- Tables as documents describe them. -/
def Table.shape : Shape Table :=
  ⟨"TableSchema", "colcheck.models.schema", Table.read⟩

end ColumnLint
