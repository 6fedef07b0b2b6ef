import ColumnLint.Proofs.Catalog.Statement

/-!
# How statements add tables

Statements keep the tables that are there in their places and put new ones behind them, in the
order in which they are first created (`Catalog.Extends`).  The creation of a table that is there
replaces it in its place, and one without columns changes nothing (`Catalog.scripts_extend`).

All of it follows from the keys after a run (`Catalog.keys_applyAll`): those of the base, which are
distinct, and then the new ones among the keys of the created tables.
-/

namespace ColumnLint

namespace Catalog

variable {base : List Table} {d : Sql.Dialect}

/-- What statements make of a list of tables: the keys stay distinct, those of the list come first
and in their order, and behind them stand the new keys of created tables, in the order of their
first creation. -/
structure Extends (d : Sql.Dialect) (base : List Table) (ss : List Sql.Statement)
    (after : List Table) : Prop where
  nodup_keys : (after.map Table.key).Nodup
  keys_eq : ∃ added, after.map Table.key = base.map Table.key ++ added ∧
    (∀ k, k ∈ added ↔ k ∈ Sql.createdKeys d ss ∧ k ∉ base.map Table.key) ∧
    added.Pairwise fun a b => (Sql.createdKeys d ss).idxOf a < (Sql.createdKeys d ss).idxOf b

/-- The keys of a list of tables with distinct keys. -/
theorem keys_ofTables_of_nodup (h : (base.map Table.key).Nodup) :
    (ofTables base).keys = base.map Table.key := by
  rw [keys, tables_ofTables h]

theorem extends_applyAll (h : (base.map Table.key).Nodup) (d : Sql.Dialect)
    (ss : List Sql.Statement) : Extends d base ss ((ofTables base).applyAll d ss).1.tables where
  nodup_keys := ((ofTables base).applyAll d ss).1.distinct
  keys_eq := by
    -- No key of the list is repeated in it, so only created ones can be repetitions.
    have hkeys : ((ofTables base).applyAll d ss).1.keys = base.map Table.key ++
        (ColumnLint.distinct (Sql.createdKeys d ss)).filter (· ∉ base.map Table.key) := by
      rw [keys_applyAll, keys_ofTables_of_nodup h, distinct_append, distinct_of_nodup h]
    refine ⟨_, hkeys, ?_, (pairwise_idxOf_distinct _).filter _⟩
    intro k
    rw [List.mem_filter, mem_distinct, decide_eq_true_eq]

/-- The creation of a table replaces the one of its key or adds a new one; if nothing is created,
nothing changes. -/
theorem tables_createTable (d : Sql.Dialect) (c : Catalog) (n : Sql.TableName)
    (columns : List Sql.ColumnDefinition) (ifAbsent : Bool) :
    (c.apply d (.createTable n columns ifAbsent)).1.tables =
      match (Sql.Statement.createTable n columns ifAbsent).created? d with
      | none => c.tables
      | some t =>
        if t.key ∈ c.keys then c.tables.map fun u => if u.key = t.key then t else u
        else c.tables ++ [t] := by
  rw [apply_createTable]
  cases (Sql.Statement.createTable n columns ifAbsent).created? d with
  | none => rfl
  | some t => exact tables_put c t

/-- Statements and scripts extend a list of tables with distinct keys, and the creation of a table
at any point replaces the table of its key in place, is put at the end, or changes nothing. -/
theorem scripts_extend (h : (base.map Table.key).Nodup) :
    (∀ (d : Sql.Dialect) (ss : List Sql.Statement),
      Extends d base ss ((ofTables base).applyAll d ss).1.tables) ∧
    (∀ (preparations : List (String × Sql.Preparation)) (dialect script : String),
      Extends (dialectOf dialect) base (statementsIn preparations dialect script)
        ((ofTables base).applyScript preparations dialect script).1.tables) ∧
    ∀ (d : Sql.Dialect) (ss : List Sql.Statement) (n : Sql.TableName)
      (columns : List Sql.ColumnDefinition) (ifAbsent : Bool),
      let before := ((ofTables base).applyAll d ss).1.tables
      ((ofTables base).applyAll d (ss ++ [.createTable n columns ifAbsent])).1.tables =
        match (Sql.Statement.createTable n columns ifAbsent).created? d with
        | none => before
        | some t =>
          if t.key ∈ before.map Table.key then before.map fun u => if u.key = t.key then t else u
          else before ++ [t] := by
  refine ⟨extends_applyAll h, ?_, ?_⟩
  · intro preparations dialect script
    rw [applyScript_fst]
    exact extends_applyAll h _ _
  · intro d ss n columns ifAbsent before
    rw [applyAll_concat]
    exact tables_createTable d _ n columns ifAbsent

/-- Two tables, to create others beside them. -/
def ordersAndItems : List Table :=
  [idTable none "DBO" "Orders", idTable (some "Shop") "DBO" "Items"]

/-- A table that is created twice, one without columns, and one that is there. -/
def creations : List Sql.Statement :=
  let code : Sql.ColumnDefinition := ⟨"code", ⟨some "CHAR", ["3"]⟩, false, []⟩
  [.createTable ⟨none, none, "stock"⟩ [code] false,
    .createTable ⟨none, none, "empty"⟩ [] false,
    .createTable ⟨none, some "Dbo", "orders"⟩ [code] true,
    .alterTable ⟨none, none, "items"⟩ [.dropColumns ["id"]],
    .createTable ⟨none, none, "Stock"⟩ [code, code] false]

/-- The new table comes last, although one that is there is created after it. -/
theorem scripts_extend_ordersAndItems :
    (ordersAndItems.map Table.key).Nodup ∧
    ((ofTables ordersAndItems).applyAll .tsql creations).1.tables.map
        (fun t => (t.key.name, t.columns.length)) = [("ORDERS", 1), ("ITEMS", 0), ("STOCK", 2)] ∧
    Extends .tsql ordersAndItems creations
      ((ofTables ordersAndItems).applyAll .tsql creations).1.tables := by
  have hdistinct : (ordersAndItems.map Table.key).Nodup := by
    decide +kernel
  exact ⟨hdistinct, by decide +kernel, (scripts_extend hdistinct).1 .tsql creations⟩

end Catalog

end ColumnLint
