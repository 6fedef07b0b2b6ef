import ColumnLint.Proofs.Catalog
import ColumnLint.Proofs.Distinct
import ColumnLint.Proofs.Text.Upper

/-!
# What a statement does to a catalog

A statement creates one table (`Sql.Statement.created?`), alters one (`Catalog.altered?`), or
changes nothing, and there is no fourth case (`Catalog.apply_cases`).  Only the creation of a table
with a new key changes the keys, so the keys after a run are those of before and then those of the
created tables, each at its first place (`Catalog.keys_applyAll`).

A table that is created has the key under which its name is looked up
(`Sql.TableName.key_tableOf`): the key of a table is in upper case, and upper-casing it again
changes nothing.
-/

namespace ColumnLint

open ColumnLint.Text

/-- A table with a known key takes the place of the one that is there. -/
theorem putTable_of_mem {t : Table} {ts : List Table} (hts : (ts.map Table.key).Nodup)
    (h : t.key ∈ ts.map Table.key) :
    putTable t ts = ts.map fun u => if u.key = t.key then t else u := by
  induction ts with
  | nil => simp at h
  | cons u r ih =>
    rw [List.map_cons, List.nodup_cons] at hts
    rw [putTable, List.map_cons]
    by_cases hu : u.key = t.key
    · -- The keys are distinct, so no table behind this one has the key.
      have hrest : ∀ v ∈ r, ¬ v.key = t.key := by
        intro v hv hvt
        exact hts.1 (List.mem_map.mpr ⟨v, hv, hvt.trans hu.symm⟩)
      rw [if_pos hu, if_pos hu, List.map_congr_left fun v hv => if_neg (hrest v hv), List.map_id']
    · rw [List.map_cons, List.mem_cons] at h
      rw [if_neg hu, if_neg hu, ih hts.2 (h.resolve_left (Ne.symm hu))]

namespace Catalog

variable {c : Catalog} {d : Sql.Dialect} {t u : Table}

/-! ### Keys -/

/-- The keys of the tables, in order. -/
def keys (c : Catalog) : List TableKey :=
  c.tables.map Table.key

@[simp] theorem distinct_keys (c : Catalog) : ColumnLint.distinct c.keys = c.keys :=
  distinct_of_nodup c.distinct

/-- A table is put in the place of the one with its key, or at the end. -/
theorem tables_put (c : Catalog) (t : Table) :
    (c.put t).tables =
      if t.key ∈ c.keys then c.tables.map fun u => if u.key = t.key then t else u
      else c.tables ++ [t] := by
  split_ifs with h
  · exact putTable_of_mem c.distinct h
  · exact putTable_of_not_mem h

theorem mem_put : u ∈ (c.put t).tables ↔ u = t ∨ u ∈ c.tables ∧ u.key ≠ t.key := by
  rw [tables_put]
  split_ifs with h
  · rw [List.mem_map]
    constructor
    · rintro ⟨v, hv, rfl⟩
      split_ifs with hk
      · exact .inl rfl
      · exact .inr ⟨hv, hk⟩
    · rintro (rfl | ⟨hu, hk⟩)
      · obtain ⟨v, hv, hk⟩ := List.mem_map.mp h
        exact ⟨v, hv, if_pos hk⟩
      · exact ⟨u, hu, if_neg hk⟩
  · rw [List.mem_append, List.mem_singleton, or_comm]
    refine or_congr_right (iff_self_and.mpr fun hu hk => ?_)
    exact h (hk ▸ List.mem_map_of_mem hu)

theorem keys_put (c : Catalog) (t : Table) :
    (c.put t).keys = ColumnLint.distinct (c.keys ++ [t.key]) := by
  rw [distinct_concat, distinct_keys]
  exact keys_putTable t c.tables

@[simp] theorem keys_mapColumns (c : Catalog) (k : TableKey) (f : Table → List Column) :
    (c.mapColumns k f).keys = c.keys := by
  show (c.tables.map _).map Table.key = c.tables.map Table.key
  rw [List.map_map]
  refine List.map_congr_left fun t _ => ?_
  rw [Function.comp_apply]
  split_ifs <;> rfl

end Catalog

namespace Sql

/-! ### Names -/

variable {d : Dialect} {n : TableName}

/-- The schema that a name means: one that is missing, empty or spelled `NONE` is the default
one. -/
def TableName.schemaIn (d : Dialect) (n : TableName) : String :=
  let schema := upper (n.schema.getD "")
  if schema = "" ∨ schema = "NONE" then upper d.defaultSchema else schema

/-- The key of the table that a name means. -/
def TableName.keyIn (d : Dialect) (n : TableName) : TableKey :=
  ⟨upper (n.database.getD ""), n.schemaIn d, upper n.name⟩

theorem upper_getD (o : Option String) : (o.map upper).getD "" = upper (o.getD "") := by
  cases o <;> rfl

/-- All names have a key but the empty one. -/
theorem TableName.key?_eq (d : Dialect) (n : TableName) :
    n.key? d = if n.name = "" then none else some (n.keyIn d) := by
  unfold key? keyIn schemaIn
  simp only [String.isEmpty_iff, upper_getD, Bool.or_eq_true, decide_eq_true_eq]

@[simp] theorem TableName.upper_schemaIn (d : Dialect) (n : TableName) :
    upper (n.schemaIn d) = n.schemaIn d := by
  unfold schemaIn
  dsimp only
  split_ifs <;> exact upper_upper _

/-- An upper-case database is read back, also if none is written for the empty one. -/
theorem upper_getD_ite (s : String) :
    upper ((if upper s = "" then none else some (upper s)).getD "") = upper s := by
  split_ifs with h
  · rw [h]
    rfl
  · exact upper_upper s

/-- A table that is created has the key of its name. -/
theorem TableName.key_tableOf (d : Dialect) (n : TableName) (columns : List ColumnDefinition) :
    (tableOf (n.keyIn d) columns).key = n.keyIn d := by
  have hdatabase := upper_getD_ite (n.database.getD "")
  show TableKey.mk _ (upper (n.schemaIn d)) (upper (upper n.name)) = n.keyIn d
  rw [upper_schemaIn, upper_upper]
  exact congrArg (TableKey.mk · (n.schemaIn d) (upper n.name)) hdatabase

/-! ### Tables that are created -/

/-- The table that a statement creates, which has a name and a column with a name. -/
def Statement.created? (d : Dialect) : Statement → Option Table
  | .createTable n columns _ =>
    if n.name = "" ∨ ∀ c ∈ columns, c.name = "" then none else some (tableOf (n.keyIn d) columns)
  | _ => none

/-- A table is created if it has a name and a column with a name. -/
theorem Statement.created?_createTable_eq_some_iff {d : Dialect} {n : TableName}
    {columns : List ColumnDefinition} {ifAbsent : Bool} {t : Table} :
    (Statement.createTable n columns ifAbsent).created? d = some t ↔
      n.name ≠ "" ∧ (∃ c ∈ columns, c.name ≠ "") ∧ tableOf (n.keyIn d) columns = t := by
  unfold Statement.created?
  dsimp only
  rw [Option.ite_none_left_eq_some, Option.some.injEq, not_or, and_assoc]
  push Not
  rfl

/-- The keys of the tables that statements create, in order. -/
def createdKeys (d : Dialect) (ss : List Statement) : List TableKey :=
  (ss.filterMap (·.created? d)).map Table.key

theorem createdKeys_append (d : Dialect) (A B : List Statement) :
    createdKeys d (A ++ B) = createdKeys d A ++ createdKeys d B := by
  unfold createdKeys
  rw [List.filterMap_append, List.map_append]

theorem createdKeys_singleton (d : Dialect) (s : Statement) :
    createdKeys d [s] = ((s.created? d).map Table.key).toList := by
  unfold createdKeys
  cases h : s.created? d with
  | none => rw [List.filterMap_cons_none h]; rfl
  | some t => rw [List.filterMap_cons_some h]; rfl

/-- No columns come of definitions without names. -/
theorem isEmpty_columns_tableOf (key : TableKey) (columns : List ColumnDefinition) :
    (tableOf key columns).columns.isEmpty ↔ ∀ c ∈ columns, c.name = "" := by
  simp [tableOf, List.isEmpty_iff, List.mapIdx_eq_nil_iff, List.filter_eq_nil_iff]

end Sql

namespace Catalog

variable {c : Catalog} {d : Sql.Dialect}

/-! ### One statement -/

/-- The key of the table that a statement alters. -/
def altered? (d : Sql.Dialect) (c : Catalog) : Sql.Statement → Option TableKey
  | .alterTable n _ => if n.name = "" then none else (c.target? (n.keyIn d)).1
  | _ => none

theorem apply_createTable (d : Sql.Dialect) (c : Catalog) (n : Sql.TableName)
    (columns : List Sql.ColumnDefinition) (ifAbsent : Bool) :
    (c.apply d (.createTable n columns ifAbsent)).1 =
      match (Sql.Statement.createTable n columns ifAbsent).created? d with
      | some t => c.put t
      | none => c := by
  unfold apply Sql.Statement.created?
  dsimp only
  rw [n.key?_eq d]
  by_cases hn : n.name = ""
  · rw [if_pos hn, if_pos (.inl hn)]
  · rw [if_neg hn]
    dsimp only
    have hempty := Sql.isEmpty_columns_tableOf (n.keyIn d) columns
    by_cases hc : ∀ c ∈ columns, c.name = ""
    · rw [if_pos (hempty.mpr hc), if_pos (.inr hc)]
    · rw [if_neg (hempty.not.mpr hc), if_neg (not_or.mpr ⟨hn, hc⟩)]

theorem apply_alterTable (d : Sql.Dialect) (c : Catalog) (n : Sql.TableName)
    (changes : List Sql.TableChange) :
    (c.apply d (.alterTable n changes)).1 =
      match c.altered? d (.alterTable n changes) with
      | some k => c.mapColumns k (Sql.TableChange.applyAll changes)
      | none => c := by
  unfold apply altered?
  dsimp only
  rw [n.key?_eq d]
  split_ifs with hn
  · rfl
  · dsimp only
    cases c.target? (n.keyIn d) with
    | mk k notices => cases k <;> rfl

/-- A statement creates a table, alters one, or changes nothing. -/
theorem apply_cases (d : Sql.Dialect) (c : Catalog) (s : Sql.Statement) :
    (∃ t, s.created? d = some t ∧ (c.apply d s).1 = c.put t) ∨
      s.created? d = none ∧
        ((∃ k f, c.altered? d s = some k ∧ (c.apply d s).1 = c.mapColumns k f) ∨
          c.altered? d s = none ∧ (c.apply d s).1 = c) := by
  cases s with
  | createTable n columns ifAbsent =>
    rw [apply_createTable]
    cases h : (Sql.Statement.createTable n columns ifAbsent).created? d with
    | some t => exact .inl ⟨t, rfl, rfl⟩
    | none => exact .inr ⟨rfl, .inr ⟨rfl, rfl⟩⟩
  | alterTable n changes =>
    refine .inr ⟨rfl, ?_⟩
    rw [apply_alterTable]
    cases h : c.altered? d (.alterTable n changes) with
    | some k => exact .inl ⟨k, _, rfl, rfl⟩
    | none => exact .inr ⟨rfl, rfl⟩
  | other => exact .inr ⟨rfl, .inr ⟨rfl, rfl⟩⟩

/-- A statement adds the key of the table that it creates. -/
theorem keys_apply (d : Sql.Dialect) (c : Catalog) (s : Sql.Statement) :
    (c.apply d s).1.keys = ColumnLint.distinct (c.keys ++ Sql.createdKeys d [s]) := by
  rw [Sql.createdKeys_singleton]
  rcases apply_cases d c s with ⟨t, ht, happly⟩ | ⟨ht, ⟨k, f, -, happly⟩ | ⟨-, happly⟩⟩
  · rw [happly, ht, keys_put]
    rfl
  · rw [happly, ht, Option.map_none, Option.toList_none, List.append_nil, distinct_keys,
      keys_mapColumns]
  · rw [happly, ht, Option.map_none, Option.toList_none, List.append_nil, distinct_keys]

/-! ### Many statements -/

/-- The keys after statements: those of before, then those of the created tables. -/
theorem keys_applyAll (d : Sql.Dialect) (c : Catalog) (ss : List Sql.Statement) :
    (c.applyAll d ss).1.keys = ColumnLint.distinct (c.keys ++ Sql.createdKeys d ss) := by
  induction ss using List.reverseRecOn with
  | nil =>
    rw [show Sql.createdKeys d [] = [] from rfl, List.append_nil, distinct_keys]
    rfl
  | append_singleton ss s ih =>
    rw [applyAll_concat, keys_apply, ih, distinct_distinct_append, List.append_assoc,
      ← Sql.createdKeys_append]

/-- A table with one column, to try statements on. -/
def idTable (database : Option String) (schema name : String) : Table :=
  ⟨database, schema, name, [⟨database, schema, name, "ID", some "INT", [], true, 1, []⟩]⟩

end Catalog

end ColumnLint
