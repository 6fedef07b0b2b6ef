/-!
# Statements

What the statements of a script say about tables. Names are kept as the script spells them,
without quotes.
-/

namespace ColumnLint.Sql

/-- The name of a table, which may say where the table is. -/
structure TableName where
  database : Option String
  schema : Option String
  name : String
  deriving DecidableEq, Repr

/-- A type as a script declares it. A computed column has none. -/
structure DeclaredType where
  base : Option String
  params : List String
  deriving DecidableEq, Repr

/-- A column as a script defines it. -/
structure ColumnDefinition where
  name : String
  type : DeclaredType
  nullable : Bool
  /-- The rules that comments suppress for the column. -/
  ignored : List String
  deriving DecidableEq, Repr

/-- One change of a table. -/
inductive TableChange where
  /-- Adds a column. Whether it is asked for only where there is none of its name is kept, but not
  looked at. -/
  | addColumn (column : ColumnDefinition) (ifAbsent : Bool)
  | dropColumns (names : List String)
  | renameColumn (old new : String)
  /-- Gives a column another type, other nullability or both. -/
  | alterColumn (name : String) (type : Option DeclaredType) (nullable : Option Bool)
  /-- A change that does not concern columns. -/
  | other
  deriving DecidableEq, Repr

/-- A statement of a script. -/
inductive Statement where
  /-- Creates a table with columns. -/
  | createTable (table : TableName) (columns : List ColumnDefinition) (ifAbsent : Bool)
  | alterTable (table : TableName) (changes : List TableChange)
  /-- A statement that does not concern the columns of tables. -/
  | other
  deriving DecidableEq, Repr

end ColumnLint.Sql
