import ColumnLint.Proofs.Catalog.Evolution
import ColumnLint.Proofs.Catalog.Target

/-!
# Chains of scripts

Scripts are run one after another from nothing, each on the tables that the one before has left
(`Catalog.chain`).  Together they do what their statements do in one run, each in the dialect of its
script (`Catalog.chain_eq`).

Every table of a run has been created by one of the statements and changed by others since
(`Catalog.mem_apply`).  So what holds of the created tables and survives each change holds of all
tables at the end (`Catalog.forall_mem_run`).
-/

namespace ColumnLint

/-- The changes that a statement makes to the table that it alters. -/
def Sql.Statement.changes : Statement → List TableChange
  | .alterTable _ changes => changes
  | _ => []

namespace Catalog

variable {d : Sql.Dialect} {c : Catalog} {s : Sql.Statement} {t : Table}
  {ss : List (Sql.Dialect × Sql.Statement)}

/-! ### Runs -/

/-- The catalog after statements, each in a dialect of its own. -/
def run (c : Catalog) (ss : List (Sql.Dialect × Sql.Statement)) : Catalog :=
  ss.foldl (fun c s => (c.apply s.1 s.2).1) c

theorem run_append (c : Catalog) (A B : List (Sql.Dialect × Sql.Statement)) :
    c.run (A ++ B) = (c.run A).run B :=
  List.foldl_append

theorem run_concat (c : Catalog) (ss : List (Sql.Dialect × Sql.Statement))
    (s : Sql.Dialect × Sql.Statement) : c.run (ss ++ [s]) = ((c.run ss).apply s.1 s.2).1 := by
  rw [run_append]
  rfl

/-- Statements in one dialect are run as they are applied. -/
theorem run_map (d : Sql.Dialect) (c : Catalog) (ss : List Sql.Statement) :
    c.run (ss.map (d, ·)) = (c.applyAll d ss).1 := by
  induction ss using List.reverseRecOn with
  | nil => rfl
  | append_singleton ss s ih =>
    rw [List.map_append, List.map_singleton, run_concat, ih, applyAll_concat]

/-! ### Chains -/

/-- The tables after scripts, each in the dialect of a name and run on what the ones before have
left. -/
def chain (preparations : List (String × Sql.Preparation)) (scripts : List (String × String)) :
    List Table :=
  scripts.foldl (fun ts s => ((ofTables ts).applyScript preparations s.1 s.2).1.tables) []

/-- The statements of scripts, with their dialects. -/
def statementsOf (preparations : List (String × Sql.Preparation))
    (scripts : List (String × String)) : List (Sql.Dialect × Sql.Statement) :=
  scripts.flatMap fun s => (statementsIn preparations s.1 s.2).map (dialectOf s.1, ·)

/-- Scripts in a chain do what their statements do in one run. -/
theorem chain_eq (preparations : List (String × Sql.Preparation))
    (scripts : List (String × String)) :
    chain preparations scripts = (empty.run (statementsOf preparations scripts)).tables := by
  induction scripts using List.reverseRecOn with
  | nil => rfl
  | append_singleton scripts s ih =>
    have hchain : chain preparations (scripts ++ [s]) = ((ofTables (chain preparations
        scripts)).applyScript preparations s.1 s.2).1.tables := List.foldl_concat ..
    have hstatements : statementsOf preparations (scripts ++ [s]) = statementsOf preparations
        scripts ++ (statementsIn preparations s.1 s.2).map (dialectOf s.1, ·) := by
      rw [statementsOf, List.flatMap_append, List.flatMap_singleton, statementsOf]
    rw [hchain, ih, ofTables_tables, applyScript_fst, hstatements, run_append, run_map]

/-! ### Where tables come from -/

/-- A table after a statement is the one that the statement creates, was there before, or is one of
those, changed. -/
theorem mem_apply (h : t ∈ (c.apply d s).1.tables) :
    s.created? d = some t ∨ t ∈ c.tables ∨
      ∃ u ∈ c.tables, c.altered? d s = some u.key ∧ t = u.changeAll s.changes := by
  cases s with
  | createTable n columns ifAbsent =>
    rw [apply_createTable] at h
    cases hcreated : (Sql.Statement.createTable n columns ifAbsent).created? d with
    | none =>
      rw [hcreated] at h
      exact .inr (.inl h)
    | some u =>
      rw [hcreated] at h
      obtain rfl | ⟨ht, -⟩ := mem_put.mp h
      · exact .inl rfl
      · exact .inr (.inl ht)
  | alterTable n changes =>
    rw [tables_alterTable, List.mem_map] at h
    obtain ⟨u, hu, rfl⟩ := h
    split_ifs with hkey
    · rw [← Table.changeAll_eq]
      exact .inr (.inr ⟨u, hu, hkey.symm, rfl⟩)
    · exact .inr (.inl hu)
  | other => exact .inr (.inl h)

/-- What holds of the created tables and survives each change holds of all tables after a run. -/
theorem forall_mem_run {P : Table → Prop} (hc : ∀ t ∈ c.tables, P t)
    (hcreated : ∀ s ∈ ss, ∀ t, s.2.created? s.1 = some t → P t)
    (hchange : ∀ s ∈ ss, ∀ change ∈ s.2.changes, ∀ t, P t → P (t.change change)) :
    ∀ t ∈ (c.run ss).tables, P t := by
  have hchanges : ∀ (changes : List Sql.TableChange) (t : Table),
      (∀ change ∈ changes, ∀ t, P t → P (t.change change)) → P t → P (t.changeAll changes) := by
    intro changes t hchange ht
    induction changes generalizing t with
    | nil => exact ht
    | cons change changes ih =>
      obtain ⟨hfirst, hrest⟩ := List.forall_mem_cons.mp hchange
      exact ih (t.change change) hrest (hfirst t ht)
  induction ss using List.reverseRecOn with
  | nil => exact hc
  | append_singleton ss s ih =>
    have hbefore := ih (fun s hs => hcreated s (List.mem_append_left _ hs))
      fun s hs => hchange s (List.mem_append_left _ hs)
    have hs := List.mem_append_right ss (List.mem_singleton_self s)
    intro t ht
    rw [run_concat] at ht
    obtain hnew | hold | ⟨u, hu, -, rfl⟩ := mem_apply ht
    · exact hcreated s hs t hnew
    · exact hbefore t hold
    · exact hchanges s.2.changes u (hchange s hs) (hbefore u hu)

/-- A created table has a name and a column with a name, and stands under the key of its name. -/
theorem eq_tableOf_of_created? (h : s.created? d = some t) :
    ∃ (n : Sql.TableName) (columns : List Sql.ColumnDefinition), n.name ≠ "" ∧
      t = Sql.tableOf (n.keyIn d) columns := by
  cases s with
  | createTable n columns ifAbsent =>
    obtain ⟨hn, -, ht⟩ := Sql.Statement.created?_createTable_eq_some_iff.mp h
    exact ⟨n, columns, hn, ht.symm⟩
  | _ => exact absurd h nofun

end Catalog

end ColumnLint
