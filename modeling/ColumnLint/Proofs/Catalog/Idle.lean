import ColumnLint.Proofs.Catalog.Statement
import ColumnLint.Snapshot

/-!
# Scripts that find nothing to do

A script leaves a catalog as it is if none of its statements creates a table or alters one
(`Catalog.applyAll_of_isIdle`); a script that cannot be read has no statements.  The list of tables
that it is run on is taken into a catalog first, which keeps one table for each key: the last one,
at the place of the first (`Catalog.TakenIn`).  So such a script leaves the list as it is iff no two
of its tables have one key (`Catalog.idle_scripts`), and loses tables otherwise
(`Catalog.unreadable_script_twinTables`).
-/

namespace ColumnLint

open ColumnLint.Text

/-- Whether a statement neither creates a table nor alters one of a catalog. -/
def Sql.Statement.IsIdle (d : Sql.Dialect) (c : Catalog) (s : Sql.Statement) : Prop :=
  s.created? d = none ∧ c.altered? d s = none

instance (d : Sql.Dialect) (c : Catalog) : DecidablePred (Sql.Statement.IsIdle d c) := fun s =>
  inferInstanceAs (Decidable (s.created? d = none ∧ c.altered? d s = none))

namespace Catalog

variable {c : Catalog} {d : Sql.Dialect} {base : List Table}

/-! ### Idle statements -/

theorem apply_of_isIdle {s : Sql.Statement} (h : s.IsIdle d c) : (c.apply d s).1 = c := by
  rcases apply_cases d c s with ⟨t, ht, -⟩ | ⟨-, ⟨k, f, hk, -⟩ | ⟨-, happly⟩⟩
  · rw [h.1] at ht
    exact absurd ht (by simp)
  · rw [h.2] at hk
    exact absurd hk (by simp)
  · exact happly

/-- Idle statements leave a catalog as it is. -/
theorem applyAll_of_isIdle {ss : List Sql.Statement} (h : ∀ s ∈ ss, s.IsIdle d c) :
    (c.applyAll d ss).1 = c := by
  induction ss using List.reverseRecOn with
  | nil => rfl
  | append_singleton ss s ih =>
    -- The first statements leave the catalog in which the last one is idle.
    rw [applyAll_concat, ih fun s' hs' => h s' (List.mem_append_left _ hs')]
    exact apply_of_isIdle (h s (List.mem_append_right _ (List.mem_singleton_self s)))

/-! ### Lists of tables as catalogs -/

theorem ofTables_concat (ts : List Table) (t : Table) :
    ofTables (ts ++ [t]) = (ofTables ts).put t := by
  unfold ofTables
  rw [List.foldl_append]
  rfl

/-- The keys of a list of tables, each at its first place. -/
theorem keys_ofTables (ts : List Table) :
    (ofTables ts).keys = ColumnLint.distinct (ts.map Table.key) := by
  induction ts using List.reverseRecOn with
  | nil => rfl
  | append_singleton ts t ih =>
    rw [ofTables_concat, keys_put, ih, distinct_distinct_append, List.map_append,
      List.map_singleton]

/-- Of the tables of one key the last one is kept. -/
theorem find?_reverse_of_mem_ofTables {ts : List Table} {t : Table}
    (h : t ∈ (ofTables ts).tables) : ts.reverse.find? (fun u => u.key = t.key) = some t := by
  induction ts using List.reverseRecOn with
  | nil => exact absurd h List.not_mem_nil
  | append_singleton ts u ih =>
    rw [ofTables_concat, mem_put] at h
    rw [List.reverse_append, List.reverse_singleton, List.singleton_append]
    -- Seen from the end the new table comes first, and hides only the tables of its own key.
    rcases h with rfl | ⟨ht, hne⟩
    · rw [List.find?_cons_of_pos (by simp)]
    · rw [List.find?_cons_of_neg (by simpa using Ne.symm hne)]
      exact ih ht

/-- What is left of a list of tables that is taken into a catalog: all of it if the keys are
distinct, and otherwise the last table of every key, at the first place of the key. -/
structure TakenIn (base after : List Table) : Prop where
  eq_iff : after = base ↔ (base.map Table.key).Nodup
  keys_eq : after.map Table.key = ColumnLint.distinct (base.map Table.key)
  last : ∀ t ∈ after, base.reverse.find? (fun u => u.key = t.key) = some t

theorem takenIn_ofTables (base : List Table) : TakenIn base (ofTables base).tables where
  eq_iff := by
    constructor
    · intro h
      have hdistinct := (ofTables base).distinct
      rwa [h] at hdistinct
    · exact tables_ofTables
  keys_eq := keys_ofTables base
  last _ h := find?_reverse_of_mem_ofTables h

theorem takenIn_applyAll {ss : List Sql.Statement} (h : ∀ s ∈ ss, s.IsIdle d (ofTables base)) :
    TakenIn base ((ofTables base).applyAll d ss).1.tables := by
  rw [applyAll_of_isIdle h]
  exact takenIn_ofTables base

theorem takenIn_applyScript {preparations : List (String × Sql.Preparation)}
    {dialect script : String} (h : ∀ s ∈ statementsIn preparations dialect script,
      s.IsIdle (dialectOf dialect) (ofTables base)) :
    TakenIn base ((ofTables base).applyScript preparations dialect script).1.tables := by
  rw [applyScript_fst]
  exact takenIn_applyAll h

/-- Statements, scripts and SQL sources that find nothing to do leave of a list of tables what is
left of it in a catalog: the whole list iff its keys are distinct. -/
theorem idle_scripts (base : List Table) :
    (∀ (d : Sql.Dialect) (ss : List Sql.Statement), (∀ s ∈ ss, s.IsIdle d (ofTables base)) →
      TakenIn base ((ofTables base).applyAll d ss).1.tables) ∧
    (∀ (preparations : List (String × Sql.Preparation)) (dialect script : String),
      (∀ s ∈ statementsIn preparations dialect script,
        s.IsIdle (dialectOf dialect) (ofTables base)) →
      TakenIn base ((ofTables base).applyScript preparations dialect script).1.tables) ∧
    ∀ (warnings : List String) (dialect path text : String),
      (∀ s ∈ statementsIn Sql.standardPreparations dialect text,
        s.IsIdle (dialectOf dialect) (ofTables base)) →
      TakenIn base ((Snapshot.mk base warnings).addScript dialect path text).1.tables := by
  refine ⟨fun d ss h => takenIn_applyAll h, fun preparations dialect script h => ?_, ?_⟩
  · exact takenIn_applyScript h
  · intro warnings dialect path text h
    exact takenIn_applyScript h

/-- A creation without columns, an alteration of a table that two databases have, one of a table
that is not there, and a statement of another sort. -/
def idleStatements : List Sql.Statement :=
  [.createTable ⟨some "Sales", none, "t"⟩ [⟨"", ⟨some "INT", []⟩, true, []⟩] false,
    .alterTable ⟨none, none, "t"⟩ [.dropColumns ["id"]],
    .alterTable ⟨some "stock", none, "t"⟩ [.dropColumns ["id"]], .other]

/-- One table in two databases. -/
def soldTables : List Table :=
  [idTable (some "SALES") "DBO" "T", idTable (some "HR") "dbo" "t"]

/-- Statements that find nothing to do, and a script that cannot be read, leave tables of two
databases alone. -/
theorem idle_scripts_soldTables :
    (∀ s ∈ idleStatements, s.IsIdle .tsql (ofTables soldTables)) ∧
    statementsIn Sql.standardPreparations "tsql" "bad (((" = [] ∧
    (soldTables.map Table.key).Nodup ∧
    ((ofTables soldTables).applyAll .tsql idleStatements).1.tables = soldTables ∧
    ((ofTables soldTables).applyScript Sql.standardPreparations "tsql" "bad (((").1.tables =
      soldTables := by
  have hidle : ∀ s ∈ idleStatements, s.IsIdle .tsql (ofTables soldTables) := by
    decide +kernel
  have hnone : statementsIn Sql.standardPreparations "tsql" "bad (((" = [] := by
    decide +kernel
  have hdistinct : (soldTables.map Table.key).Nodup := by
    decide +kernel
  obtain ⟨hstatements, hscripts, -⟩ := idle_scripts soldTables
  have hscript := hscripts Sql.standardPreparations "tsql" "bad (((" fun s hs =>
    absurd (hnone ▸ hs) List.not_mem_nil
  exact ⟨hidle, hnone, hdistinct, (hstatements .tsql idleStatements hidle).eq_iff.mpr hdistinct,
    hscript.eq_iff.mpr hdistinct⟩

/-- Two tables whose names differ in letter case only. -/
def twinTables : List Table :=
  [⟨none, "PUBLIC", "orders", [⟨none, "PUBLIC", "orders", "id", some "INT", [], true, 1, []⟩]⟩,
    ⟨none, "PUBLIC", "Orders", [⟨none, "PUBLIC", "Orders", "id", some "BIGINT", [], true, 1, []⟩]⟩]

/-- A script that cannot be read loses the first of two tables with one key. -/
theorem unreadable_script_twinTables :
    statementsIn Sql.standardPreparations "tsql" "bad (((" = [] ∧
    ((ofTables twinTables).applyScript Sql.standardPreparations "tsql" "bad (((").1.tables =
      twinTables.drop 1 := by
  decide +kernel

end Catalog

end ColumnLint
