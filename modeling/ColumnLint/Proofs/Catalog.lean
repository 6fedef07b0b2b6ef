import ColumnLint.Catalog
import Mathlib.Data.List.Induction

/-!
# Catalogs and lists of tables

A catalog is rebuilt from the list of its tables (`Catalog.ofTables_tables`): the keys of the
tables are distinct, so each is put at the end, and no statement can make two of them equal.  As
statements are applied one after another (`Catalog.applyAll_append`), scripts may be run one by
one, each on the tables that the one before has left, or all at once
(`Catalog.chained_scripts`).
-/

namespace ColumnLint

/-- A table with a new key is put at the end. -/
theorem putTable_of_not_mem {t : Table} {ts : List Table} (h : t.key ∉ ts.map Table.key) :
    putTable t ts = ts ++ [t] := by
  induction ts with
  | nil => rfl
  | cons u r ih =>
    rw [List.map_cons, List.mem_cons, not_or] at h
    rw [putTable, if_neg (Ne.symm h.1), ih h.2]
    rfl

namespace Catalog

@[ext] theorem ext {c c' : Catalog} (h : c.tables = c'.tables) : c = c' := by
  cases c
  cases c'
  cases h
  rfl

/-- Tables with new and distinct keys are put at the end, in order. -/
theorem tables_foldl_put (c : Catalog) (ts : List Table)
    (h : ((c.tables ++ ts).map Table.key).Nodup) : (ts.foldl put c).tables = c.tables ++ ts := by
  -- The keys of `c` and of what is still to come are distinct at every step.
  induction ts generalizing c with
  | nil => simp
  | cons t ts ih =>
    have hnew : t.key ∉ c.tables.map Table.key := by
      rw [List.map_append, List.map_cons, List.nodup_append] at h
      intro hmem
      exact h.2.2 _ hmem _ (List.mem_cons_self ..) rfl
    have hput : (c.put t).tables = c.tables ++ [t] := putTable_of_not_mem hnew
    rw [List.foldl_cons, ih (c.put t) (by rw [hput]; simpa using h), hput]
    simp

/-- A list of tables with distinct keys is kept as it is. -/
theorem tables_ofTables {ts : List Table} (h : (ts.map Table.key).Nodup) :
    (ofTables ts).tables = ts :=
  tables_foldl_put empty ts h

/-- A catalog is rebuilt from its tables. -/
@[simp] theorem ofTables_tables (c : Catalog) : ofTables c.tables = c :=
  ext (tables_ofTables c.distinct)

/-! ### Statements one after another -/

/-- One more statement at the end acts on what the others have left. -/
theorem applyAll_concat (d : Sql.Dialect) (c : Catalog) (ss : List Sql.Statement)
    (s : Sql.Statement) :
    c.applyAll d (ss ++ [s]) =
      (((c.applyAll d ss).1.apply d s).1,
        (c.applyAll d ss).2 ++ ((c.applyAll d ss).1.apply d s).2) := by
  unfold applyAll
  rw [List.foldl_append]
  rfl

/-- Further statements act on what the first ones have left. -/
theorem applyAll_append (d : Sql.Dialect) (c : Catalog) (A B : List Sql.Statement) :
    c.applyAll d (A ++ B) =
      (((c.applyAll d A).1.applyAll d B).1,
        (c.applyAll d A).2 ++ ((c.applyAll d A).1.applyAll d B).2) := by
  induction B using List.reverseRecOn with
  | nil => simp [applyAll]
  | append_singleton B s ih =>
    rw [← List.append_assoc, applyAll_concat, ih, applyAll_concat, List.append_assoc]

/-! ### Scripts -/

/-- The statements of a script in the dialect of a name; none if it cannot be read. -/
def statementsIn (preparations : List (String × Sql.Preparation)) (dialect script : String) :
    List Sql.Statement :=
  match Sql.Dialect.ofName? dialect with
  | none => []
  | some d => (Sql.statementsOf? d (Sql.prepare preparations dialect script).1).getD []

/-- The dialect of a name; a name that is not known, whose scripts have no statements, may stand
for any. -/
def dialectOf (dialect : String) : Sql.Dialect :=
  (Sql.Dialect.ofName? dialect).getD .tsql

/-- A script does to a catalog what its statements do. -/
theorem applyScript_fst (preparations : List (String × Sql.Preparation)) (c : Catalog)
    (dialect script : String) :
    (c.applyScript preparations dialect script).1 =
      (c.applyAll (dialectOf dialect) (statementsIn preparations dialect script)).1 := by
  unfold applyScript statementsIn dialectOf
  cases hd : Sql.Dialect.ofName? dialect with
  | none => rfl
  | some d =>
    cases hs : Sql.statementsOf? d (Sql.prepare preparations dialect script).1 with
    | none => simp [hs, applyAll]
    | some statements => simp [hs]

/-- Statements in two runs, the second on the tables that the first has left, leave the tables
that they leave in one run; and so do two scripts. -/
theorem chained_scripts (base : List Table) :
    (∀ (d : Sql.Dialect) (A B : List Sql.Statement),
      ((ofTables ((ofTables base).applyAll d A).1.tables).applyAll d B).1.tables =
        ((ofTables base).applyAll d (A ++ B)).1.tables) ∧
    ∀ (preparations : List (String × Sql.Preparation)) (dialect a b : String),
      ((ofTables ((ofTables base).applyScript preparations dialect a).1.tables).applyScript
        preparations dialect b).1.tables =
      ((ofTables base).applyAll (dialectOf dialect)
        (statementsIn preparations dialect a ++ statementsIn preparations dialect b)).1.tables := by
  constructor
  · intro d A B
    rw [ofTables_tables, applyAll_append]
  · intro preparations dialect a b
    rw [ofTables_tables, applyScript_fst, applyScript_fst, applyAll_append]

end Catalog

end ColumnLint
