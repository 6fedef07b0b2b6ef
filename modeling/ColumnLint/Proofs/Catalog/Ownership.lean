import ColumnLint.Proofs.Catalog.Chain

/-!
# Well-formed tables

Statements write names in upper case, which upper-casing leaves as they are, and each column names
the table that holds it.  A created table has this form, an added column takes its owner from the
table, and a renaming upper-cases the new name.  So all tables have it after any chain of scripts
that starts from nothing (`Catalog.wellFormed_chain`), and the key of a table can be read off its
names (`Table.WellFormed.key_eq`).
-/

namespace ColumnLint

open ColumnLint.Text

variable {t : Table} {c c' : Column}

/-- A column of a table has its name in upper case and names the table as its owner. -/
structure Column.BelongsTo (c : Column) (t : Table) : Prop where
  name : upper c.name = c.name
  database : c.database = t.database
  schema : c.schema = t.schema
  table : c.table = t.name

/-- The names of a table are in upper case, and the columns belong to it. -/
structure Table.WellFormed (t : Table) : Prop where
  database : ∀ s, t.database = some s → upper s = s
  schema : upper t.schema = t.schema
  name : upper t.name = t.name
  columns : ∀ c ∈ t.columns, c.BelongsTo t

/-- A well-formed table has the key that its names spell. -/
theorem Table.WellFormed.key_eq (h : t.WellFormed) :
    t.key = ⟨t.database.getD "", t.schema, t.name⟩ := by
  have hdatabase : upper (t.database.getD "") = t.database.getD "" := by
    cases hs : t.database with
    | none => exact (upper_eq_empty_iff "").mpr rfl
    | some s => exact h.database s hs
  rw [key, hdatabase, h.schema, h.name]

namespace Sql

variable {change : TableChange}

/-- A defined column belongs to the table for which it is made. -/
theorem belongsTo_toColumn (definition : ColumnDefinition) (t : Table) (ordinal : Nat) :
    (definition.toColumn t.database t.schema t.name ordinal).BelongsTo t :=
  ⟨upper_upper _, rfl, rfl, rfl⟩

theorem wellFormed_tableOf (d : Dialect) (n : TableName) (definitions : List ColumnDefinition) :
    (tableOf (n.keyIn d) definitions).WellFormed where
  database := by
    intro s hs
    obtain ⟨-, hs⟩ := Option.ite_none_left_eq_some.mp hs
    rw [← Option.some.inj hs]
    exact upper_upper _
  schema := n.upper_schemaIn d
  name := upper_upper _
  columns := by
    intro c hc
    obtain ⟨i, hi, rfl⟩ := List.mem_mapIdx.mp hc
    exact belongsTo_toColumn _ (tableOf (n.keyIn d) definitions) (i + 1)

/-- What is left of a column has its name as before, or a new one in upper case. -/
theorem TableChange.name_of_fate (h : change.fate c = some c') :
    c'.name = c.name ∨ ∃ new, c'.name = upper new := by
  cases change with
  | addColumn | other => exact .inl (congrArg Column.name (Option.some.inj h)).symm
  | dropColumns names =>
    obtain ⟨-, h⟩ := Option.ite_none_right_eq_some.mp h
    exact .inl (congrArg Column.name (Option.some.inj h)).symm
  | renameColumn old new =>
    obtain rfl := Option.some.inj h
    unfold renamed
    split_ifs
    · exact .inr ⟨new, rfl⟩
    · exact .inl rfl
  | alterColumn name type nullable =>
    obtain rfl := Option.some.inj h
    unfold altered
    split_ifs <;> exact .inl rfl

/-- What is left of a column belongs where the column did. -/
theorem TableChange.belongsTo_of_fate (h : change.fate c = some c') (hc : c.BelongsTo t) :
    c'.BelongsTo t := by
  have hkeeps := keeps_of_fate h
  refine ⟨?_, hkeeps.database.trans hc.database, hkeeps.schema.trans hc.schema,
    hkeeps.table.trans hc.table⟩
  obtain hname | ⟨new, hname⟩ := name_of_fate h
  · rw [hname, hc.name]
  · rw [hname, upper_upper]

theorem TableChange.belongsTo_of_mem_added (h : c ∈ change.added t) : c.BelongsTo t := by
  cases change with
  | addColumn definition ifAbsent =>
    rw [added] at h
    split_ifs at h
    · exact absurd h List.not_mem_nil
    · rw [List.mem_singleton.mp h]
      exact belongsTo_toColumn definition t _
  | _ => exact absurd h List.not_mem_nil

end Sql

/-- A changed table owns what the table did. -/
theorem Column.BelongsTo.change (h : c.BelongsTo t) (change : Sql.TableChange) :
    c.BelongsTo (t.change change) :=
  ⟨h.name, h.database, h.schema, h.table⟩

/-- A change leaves a well-formed table well formed. -/
theorem Table.WellFormed.change (h : t.WellFormed) (change : Sql.TableChange) :
    (t.change change).WellFormed where
  database := h.database
  schema := h.schema
  name := h.name
  columns := by
    intro c hc
    rw [Sql.TableChange.columns_change, List.mem_append, List.mem_filterMap] at hc
    obtain ⟨c₀, hc₀, hfate⟩ | hadded := hc
    · exact (Sql.TableChange.belongsTo_of_fate hfate (h.columns c₀ hc₀)).change change
    · exact (Sql.TableChange.belongsTo_of_mem_added hadded).change change

namespace Catalog

/-- All tables are well formed after statements that start from nothing. -/
theorem wellFormed_run (ss : List (Sql.Dialect × Sql.Statement)) :
    ∀ t ∈ (empty.run ss).tables, t.WellFormed := by
  refine forall_mem_run (fun t ht => absurd ht List.not_mem_nil) (fun s _ t ht => ?_)
    fun _ _ change _ t ht => ht.change change
  obtain ⟨n, columns, -, rfl⟩ := eq_tableOf_of_created? ht
  exact Sql.wellFormed_tableOf s.1 n columns

/-- All tables are well formed after scripts that start from nothing. -/
theorem wellFormed_chain (preparations : List (String × Sql.Preparation))
    (scripts : List (String × String)) : ∀ t ∈ chain preparations scripts, t.WellFormed := by
  rw [chain_eq]
  exact wellFormed_run _

/-- Scripts that create a table, give it a column and rename another, each in its own letter
case. -/
def streetScripts : List (String × String) :=
  [("tsql", "CREATE TABLE sales.[straße].orders (id INT, city INT)"),
    ("tsql", "ALTER TABLE Sales.Strasse.ORDERS ADD [straße] INT"),
    ("postgres", "ALTER TABLE sales.strasse.orders RENAME COLUMN city TO town")]

/-- The table of these scripts. -/
def streetTable : Table where
  database := some "SALES"
  schema := "STRASSE"
  name := "ORDERS"
  columns := ["ID", "TOWN", "STRASSE"].mapIdx fun i name =>
    ⟨some "SALES", "STRASSE", "ORDERS", name, some "INT", [], true, i + 1, []⟩

theorem wellFormed_chain_street : streetTable ∈ chain Sql.standardPreparations streetScripts ∧
    streetTable.WellFormed := by
  have hmem : streetTable ∈ chain Sql.standardPreparations streetScripts := by decide +kernel
  exact ⟨hmem, wellFormed_chain Sql.standardPreparations streetScripts streetTable hmem⟩

end Catalog

end ColumnLint
