import ColumnLint.Schema
import ColumnLint.Sql.Preparation
import ColumnLint.Sql.Script

/-!
# Catalogs

The tables that are known at a point of a run, at most one for each key, in the order in which
they became known. Statements change a catalog one after another: the creation of a table
adds it or replaces the one of its key in place, an alteration changes the columns of one table
(`Catalog.target?`), and all other statements leave the catalog as it is (`Catalog.apply`).
-/

namespace ColumnLint

open ColumnLint.Text

/-! ### Lists of tables -/

/-- The tables with another one added, or put in the place of the one with its key. -/
def putTable (t : Table) : List Table → List Table
  | [] => [t]
  | u :: r => if u.key = t.key then t :: r else u :: putTable t r

/-- Putting a table adds its key at the end unless it is there. -/
theorem keys_putTable (t : Table) (ts : List Table) :
    (putTable t ts).map Table.key =
      if t.key ∈ ts.map Table.key then ts.map Table.key else ts.map Table.key ++ [t.key] := by
  induction ts with
  | nil => simp [putTable]
  | cons u r ih =>
    by_cases h : u.key = t.key
    · simp [putTable, h]
    · have h' : ¬ t.key = u.key := fun e => h e.symm
      simp only [putTable, h, if_false, List.map_cons, ih, List.mem_cons, h', false_or]
      split <;> simp

/-- Tables with distinct keys. -/
structure Catalog where
  tables : List Table
  distinct : (tables.map Table.key).Nodup

namespace Catalog

/-- The catalog without tables. -/
def empty : Catalog := ⟨[], List.nodup_nil⟩

/-- The catalog with a table added, or put in the place of the one with its key. -/
def put (c : Catalog) (t : Table) : Catalog where
  tables := putTable t c.tables
  distinct := by
    rw [keys_putTable]
    split
    · exact c.distinct
    · rename_i h
      exact List.nodup_append.2 ⟨c.distinct, by simp, by
        intro a ha b hb
        simp only [List.mem_singleton] at hb
        exact fun e => h (hb ▸ e ▸ ha)⟩

/-- The catalog of a list of tables; of several with one key the last one counts. -/
def ofTables (tables : List Table) : Catalog := tables.foldl put empty

/-- The catalog with the columns of the table with a key changed. -/
def mapColumns (c : Catalog) (key : TableKey) (f : Table → List Column) : Catalog where
  tables := c.tables.map fun t => if t.key = key then { t with columns := f t } else t
  distinct := by
    have h : (c.tables.map fun t => if t.key = key then { t with columns := f t } else t).map
        Table.key = c.tables.map Table.key := by
      rw [List.map_map]
      apply List.map_congr_left
      intro t _
      simp only [Function.comp_apply]
      split <;> rfl
    rw [h]
    exact c.distinct

/-- The table with a key. -/
def find? (c : Catalog) (key : TableKey) : Option Table :=
  c.tables.find? fun t => t.key = key

end Catalog

namespace Sql

/-! ### Names in statements -/

/-- The schema of a table whose name tells none. -/
def Dialect.defaultSchema : Dialect → String
  | .tsql => "DBO"
  | _ => commonSchema

/-- The key of the table that a statement names; none if the name is empty. -/
def TableName.key? (d : Dialect) (n : TableName) : Option TableKey :=
  if n.name.isEmpty then none
  else
    let schema := (n.schema.map upper).getD ""
    some ⟨(n.database.map upper).getD "",
      if schema = "" || schema = "NONE" then upper d.defaultSchema else schema, upper n.name⟩

/-! ### Columns -/

/-- A defined column as a column of a table. -/
def ColumnDefinition.toColumn (c : ColumnDefinition) (database : Option String)
    (schema table : String) (ordinal : Nat) : Column where
  database := database
  schema := schema
  table := table
  name := upper c.name
  type := c.type.base
  params := c.type.params
  nullable := c.nullable
  ordinal := ordinal
  ignored := c.ignored

/-- The table of a key with the defined columns, numbered from 1. Definitions without a name are
left out. -/
def tableOf (key : TableKey) (definitions : List ColumnDefinition) : Table :=
  let database := if key.database = "" then none else some key.database
  let named := definitions.filter fun c => c.name ≠ ""
  { database := database
    schema := key.schema
    name := key.name
    columns := named.mapIdx fun i c => c.toColumn database key.schema key.name (i + 1) }

/-- Whether a column has a name, which is given in upper case. -/
def isNamed (c : Column) (name : String) : Bool := upper c.name = name

/-- The columns of a table after a change. -/
def TableChange.apply (change : TableChange) (t : Table) : List Column :=
  match change with
  | .addColumn c _ =>
    if c.name = "" then t.columns
    else t.columns ++ [c.toColumn t.database t.schema t.name (t.columns.length + 1)]
  | .dropColumns names => t.columns.filter fun c => !(names.map upper).contains (upper c.name)
  | .renameColumn old new =>
    t.columns.map fun c => if isNamed c (upper old) then { c with name := upper new } else c
  | .alterColumn name type nullable =>
    t.columns.map fun c =>
      if isNamed c (upper name) then
        { c with
          type := (type.map (·.base)).getD c.type
          params := (type.map (·.params)).getD c.params
          nullable := nullable.getD c.nullable }
      else c
  | .other => t.columns

/-- The columns of a table after changes, one after another. -/
def TableChange.applyAll (changes : List TableChange) (t : Table) : List Column :=
  (changes.foldl (fun (t : Table) change => { t with columns := change.apply t }) t).columns

end Sql

namespace Catalog

/-! ### Statements -/

/-- The tables with a schema and a name in any database. -/
def candidates (c : Catalog) (key : TableKey) : List Table :=
  c.tables.filter fun t => t.key.schema = key.schema && t.key.name = key.name

/-- The key of the table that an alteration of the given key means: the table with this key or,
if no database is given, the only one with its schema and name. Several leave a notice. -/
def target? (c : Catalog) (key : TableKey) : Option TableKey × List Notice :=
  if (c.find? key).isSome then (some key, [])
  else if key.database ≠ "" then (none, [])
  else
    match c.candidates key with
    | [] => (none, [])
    | [t] => (some t.key, [])
    | _ => (none, [.ambiguousTable key.schema key.name])

/-- The catalog after a statement, with the notices that it leaves. -/
def apply (d : Sql.Dialect) (c : Catalog) : Sql.Statement → Catalog × List Notice
  | .createTable table columns _ =>
    match table.key? d with
    | none => (c, [])
    | some key =>
      let t := Sql.tableOf key columns
      if t.columns.isEmpty then (c, [.noColumns key.name]) else (c.put t, [])
  | .alterTable table changes =>
    match table.key? d with
    | none => (c, [])
    | some key =>
      match c.target? key with
      | (some k, notices) => (c.mapColumns k (Sql.TableChange.applyAll changes), notices)
      | (none, notices) => (c, notices)
  | .other => (c, [])

/-- The catalog after statements, one after another, with all notices. -/
def applyAll (d : Sql.Dialect) (c : Catalog) (statements : List Sql.Statement) :
    Catalog × List Notice :=
  statements.foldl
    (fun (c, notices) s =>
      let (c', more) := c.apply d s
      (c', notices ++ more))
    (c, [])

/-- The catalog after a script in the dialect of a name. A script that cannot be read, or whose
dialect is not known, changes nothing. -/
def applyScript (preparations : List (String × Sql.Preparation)) (c : Catalog)
    (dialect script : String) : Catalog × List Notice :=
  let (text, notices) := Sql.prepare preparations dialect script
  match Sql.Dialect.ofName? dialect with
  | none => (c, notices ++ [.unreadableScript "the dialect is not known"])
  | some d =>
    match Sql.statementsOf? d text with
    | none => (c, notices ++ [.unreadableScript "a statement cannot be read"])
    | some statements =>
      let (c', more) := c.applyAll d statements
      (c', notices ++ more)

end Catalog

end ColumnLint
