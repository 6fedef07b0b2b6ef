import ColumnLint.Proofs.Catalog.Statement

/-!
# Which table an alteration changes

An alteration means the table of the key that its name spells or, if it spells no database, the
only one of its schema and name (`Catalog.Resolves`); this settles for every key which table is
meant, if any (`Catalog.resolves_iff`).  That table gets other columns and all else stays as it is,
and a table that a script creates is meant by every later alteration whose name differs from that
of the creation in letter case only (`Catalog.alterTable_frame`).

The schema that a name spells need not be the one that is meant: `NONE` stands for the default
schema, even if there is a schema of that name (`Catalog.alterTable_noneSchema`).
-/

namespace ColumnLint

open ColumnLint.Text

/-- Whether two keys have one schema and one name, in whatever databases. -/
def TableKey.SameName (k key : TableKey) : Prop :=
  k.schema = key.schema ∧ k.name = key.name

/-- Whether two names are the same in upper case, part by part. -/
structure Sql.TableName.SameUpper (n m : Sql.TableName) : Prop where
  database : n.database.map upper = m.database.map upper
  schema : n.schema.map upper = m.schema.map upper
  name : upper n.name = upper m.name

namespace Catalog

variable {c : Catalog} {key k : TableKey} {d : Sql.Dialect}

/-- The key of the table that a key means in a catalog, if it means one. -/
inductive Resolves (c : Catalog) (key : TableKey) : Option TableKey → Prop where
  /-- The table of the key is there. -/
  | exact (hkey : key ∈ c.keys) : Resolves c key (some key)
  /-- No database is given, and a single one has a table of the schema and name. -/
  | only (hdatabase : key.database = "") (hkey : key ∉ c.keys) (k : TableKey) (hk : k ∈ c.keys)
      (hname : k.SameName key) (honly : ∀ k' ∈ c.keys, k'.SameName key → k' = k) :
      Resolves c key (some k)
  /-- A database is given, which has no such table. -/
  | elsewhere (hdatabase : key.database ≠ "") (hkey : key ∉ c.keys) : Resolves c key none
  /-- No database has a table of the schema and name. -/
  | absent (hnone : ∀ k ∈ c.keys, ¬ k.SameName key) : Resolves c key none
  /-- No database is given, and several have a table of the schema and name. -/
  | ambiguous (hdatabase : key.database = "") (hkey : key ∉ c.keys) (k k' : TableKey)
      (hk : k ∈ c.keys) (hk' : k' ∈ c.keys) (hname : k.SameName key) (hname' : k'.SameName key)
      (hne : k ≠ k') : Resolves c key none

/-! ### The search for the table -/

theorem isSome_find?_iff : (c.find? key).isSome ↔ key ∈ c.keys := by
  rw [find?, List.find?_isSome, keys, List.mem_map]
  simp only [decide_eq_true_eq]

theorem mem_candidates {t : Table} :
    t ∈ c.candidates key ↔ t ∈ c.tables ∧ t.key.SameName key := by
  simp [candidates, TableKey.SameName]

theorem candidates_keys (h : k ∈ c.keys) (hname : k.SameName key) :
    ∃ t ∈ c.candidates key, t.key = k := by
  obtain ⟨t, ht, rfl⟩ := List.mem_map.mp h
  exact ⟨t, mem_candidates.mpr ⟨ht, hname⟩, rfl⟩

/-- The search finds what the key means. -/
theorem resolves_target? (c : Catalog) (key : TableKey) : c.Resolves key (c.target? key).1 := by
  unfold target?
  simp only [isSome_find?_iff]
  split_ifs with hkey hdatabase
  · exact .exact hkey
  · exact .elsewhere hdatabase hkey
  · rw [ne_eq, not_not] at hdatabase
    have hmem := @mem_candidates c key
    cases hcandidates : c.candidates key with
    | nil =>
      refine .absent fun k hk hname => ?_
      obtain ⟨t, ht, -⟩ := candidates_keys hk hname
      rw [hcandidates] at ht
      exact List.not_mem_nil ht
    | cons t rest =>
      have ht := hmem.mp (hcandidates ▸ List.mem_cons_self ..)
      cases rest with
      | nil =>
        refine .only hdatabase hkey t.key (List.mem_map_of_mem ht.1) ht.2 fun k hk hname => ?_
        obtain ⟨u, hu, rfl⟩ := candidates_keys hk hname
        rw [hcandidates, List.mem_singleton] at hu
        rw [hu]
      | cons u rest =>
        have hu := hmem.mp (hcandidates ▸ List.mem_cons_of_mem _ (List.mem_cons_self ..))
        refine .ambiguous hdatabase hkey t.key u.key (List.mem_map_of_mem ht.1)
          (List.mem_map_of_mem hu.1) ht.2 hu.2 fun hsame => ?_
        -- The candidates are some of the tables, so their keys are distinct as well.
        have hdistinct : ((c.candidates key).map Table.key).Nodup :=
          c.distinct.sublist (List.filter_sublist.map _)
        rw [hcandidates, List.map_cons, List.nodup_cons, List.map_cons, hsame] at hdistinct
        exact hdistinct.1 (List.mem_cons_self ..)

/-- A key means at most one table. -/
theorem Resolves.unique {r r' : Option TableKey} (h : c.Resolves key r) (h' : c.Resolves key r') :
    r = r' := by
  -- Two rules apply at once only if they agree: all other pairs contradict each other on whether
  -- the key is there, whether it has a database, or how many tables have its name.
  cases h <;> cases h' <;> grind [TableKey.SameName]

theorem resolves_iff {r : Option TableKey} : c.Resolves key r ↔ r = (c.target? key).1 := by
  constructor
  · intro h
    exact h.unique (resolves_target? c key)
  · rintro rfl
    exact resolves_target? c key

/-- The key of the table that a name means, if it means one; an empty name means none. -/
def Means (d : Sql.Dialect) (c : Catalog) (n : Sql.TableName) (r : Option TableKey) : Prop :=
  n.name = "" ∧ r = none ∨ n.name ≠ "" ∧ c.Resolves (n.keyIn d) r

theorem means_iff {n : Sql.TableName} {changes : List Sql.TableChange} {r : Option TableKey} :
    c.Means d n r ↔ r = c.altered? d (.alterTable n changes) := by
  unfold Means altered?
  dsimp only
  rw [resolves_iff]
  split_ifs with hn <;> simp [hn]

/-! ### What an alteration leaves -/

/-- The table that is meant gets other columns, and all others stay as they are. -/
theorem tables_alterTable (d : Sql.Dialect) (c : Catalog) (n : Sql.TableName)
    (changes : List Sql.TableChange) :
    (c.apply d (.alterTable n changes)).1.tables = c.tables.map fun t =>
      if some t.key = c.altered? d (.alterTable n changes) then
        { t with columns := Sql.TableChange.applyAll changes t } else t := by
  rw [apply_alterTable]
  cases c.altered? d (.alterTable n changes) with
  | some k =>
    simp only [Option.some.injEq]
    rfl
  | none => simp only [reduceCtorEq, if_false, List.map_id']

/-- A key that is in the catalog is the one that is meant. -/
theorem altered?_of_mem {n : Sql.TableName} (changes : List Sql.TableChange) (hn : n.name ≠ "")
    (h : n.keyIn d ∈ c.keys) : c.altered? d (.alterTable n changes) = some (n.keyIn d) :=
  (means_iff.mp (.inr ⟨hn, .exact h⟩)).symm

/-- Statements keep all keys. -/
theorem mem_keys_applyAll (d : Sql.Dialect) (ss : List Sql.Statement) (h : k ∈ c.keys) :
    k ∈ (c.applyAll d ss).1.keys := by
  rw [keys_applyAll, mem_distinct]
  exact List.mem_append_left _ h

/-- A table that is created has a name, and its key is the key of the name. -/
theorem key_of_created? {n : Sql.TableName} {columns : List Sql.ColumnDefinition}
    {ifAbsent : Bool} {t : Table}
    (h : (Sql.Statement.createTable n columns ifAbsent).created? d = some t) :
    n.name ≠ "" ∧ t.key = n.keyIn d := by
  obtain ⟨hn, -, rfl⟩ := Sql.Statement.created?_createTable_eq_some_iff.mp h
  exact ⟨hn, n.key_tableOf d columns⟩

/-- Names that are the same in upper case have one key. -/
theorem keyIn_eq_of_sameUpper {n m : Sql.TableName} (h : n.SameUpper m) :
    n.keyIn d = m.keyIn d := by
  unfold Sql.TableName.keyIn Sql.TableName.schemaIn
  rw [← Sql.upper_getD n.database, ← Sql.upper_getD n.schema, h.database, h.schema, h.name,
    Sql.upper_getD, Sql.upper_getD]

/-- An alteration changes the columns of the table that its name means, and nothing else.  A table
that has been created is meant by every later alteration of a name that is the same in upper
case. -/
theorem alterTable_frame (d : Sql.Dialect) (c : Catalog) (n : Sql.TableName)
    (changes : List Sql.TableChange) :
    (∃ target, (∀ r, c.Means d n r ↔ r = target) ∧
      (c.apply d (.alterTable n changes)).1.tables = c.tables.map fun t =>
        if some t.key = target then { t with columns := Sql.TableChange.applyAll changes t }
        else t) ∧
    ∀ (m : Sql.TableName) (columns : List Sql.ColumnDefinition) (ifAbsent : Bool) (t : Table),
      (Sql.Statement.createTable m columns ifAbsent).created? d = some t → n.SameUpper m →
      ∀ ss : List Sql.Statement,
        let later := ((c.apply d (.createTable m columns ifAbsent)).1.applyAll d ss).1
        t.key ∈ later.keys ∧
        (later.apply d (.alterTable n changes)).1.tables = later.tables.map fun u =>
          if u.key = t.key then { u with columns := Sql.TableChange.applyAll changes u }
          else u := by
  refine ⟨⟨_, fun r => means_iff, tables_alterTable d c n changes⟩, ?_⟩
  intro m columns ifAbsent t ht hsame ss later
  obtain ⟨hm, hkey⟩ := key_of_created? ht
  have hput : t.key ∈ (c.apply d (.createTable m columns ifAbsent)).1.keys := by
    rw [apply_createTable, ht]
    exact List.mem_map_of_mem (mem_put.mpr (.inl rfl))
  have hlater : t.key ∈ later.keys := mem_keys_applyAll d ss hput
  -- The name of a table that is created is not empty, and upper-casing empties no name.
  have hn : n.name ≠ "" := by
    intro hn
    have hname := hsame.name
    rw [hn, eq_comm, (upper_eq_empty_iff "").mpr rfl, upper_eq_empty_iff] at hname
    exact hm hname
  have htarget : later.altered? d (.alterTable n changes) = some t.key := by
    rw [hkey, ← keyIn_eq_of_sameUpper hsame] at hlater ⊢
    exact altered?_of_mem changes hn hlater
  refine ⟨hlater, ?_⟩
  rw [tables_alterTable, htarget]
  simp only [Option.some.injEq]

/-- A table of one schema and name in two databases. -/
def inTwoDatabases : List Table :=
  [idTable (some "SALES") "DBO" "T", idTable (some "HR") "DBO" "T"]

/-- The name of a table in a schema whose name gets longer in upper case. -/
def streetName : Sql.TableName := ⟨some "hr", some "straße", "u"⟩

/-- A table that is created in small letters is reached in capital letters, whatever statements
stand between. -/
theorem alterTable_frame_recased :
    let c := ofTables inTwoDatabases
    let columns : List Sql.ColumnDefinition := [⟨"id", ⟨some "INT", []⟩, true, []⟩]
    let changes : List Sql.TableChange := [.renameColumn "ID" "code"]
    let n : Sql.TableName := ⟨some "HR", some "STRASSE", "U"⟩
    ∃ t : Table, t.key = ⟨"HR", "STRASSE", "U"⟩ ∧
      (Sql.Statement.createTable streetName columns false).created? .tsql = some t ∧
      n.SameUpper streetName ∧
      ∀ ss : List Sql.Statement,
        let later := ((c.apply .tsql (.createTable streetName columns false)).1.applyAll .tsql ss).1
        t.key ∈ later.keys ∧
        (later.apply .tsql (.alterTable n changes)).1.tables = later.tables.map fun u =>
          if u.key = t.key then { u with columns := Sql.TableChange.applyAll changes u }
          else u := by
  intro c columns changes n
  have hkey : (Sql.tableOf ⟨"HR", "STRASSE", "U"⟩ columns).key = ⟨"HR", "STRASSE", "U"⟩ := by
    decide +kernel
  have hcreated : (Sql.Statement.createTable streetName columns false).created? .tsql =
      some (Sql.tableOf ⟨"HR", "STRASSE", "U"⟩ columns) := by
    decide +kernel
  have hsame : n.SameUpper streetName := ⟨by decide +kernel, by decide +kernel, by decide +kernel⟩
  exact ⟨_, hkey, hcreated, hsame,
    (alterTable_frame .tsql c n changes).2 streetName columns false _ hcreated hsame⟩

/-- A name that several databases have changes none of their tables. -/
example : ((ofTables inTwoDatabases).apply .tsql
    (.alterTable ⟨none, none, "t"⟩ [.dropColumns ["ID"]])).1.tables = inTwoDatabases := by
  decide +kernel

/-- Two tables of one name in one database, one of them in a schema called `NONE`. -/
def inTwoSchemas : List Table :=
  [idTable (some "DB") "NONE" "T", idTable (some "DB") "DBO" "T"]

/-- An alteration of `db.none.t` leaves the table of this key and changes another one. -/
theorem alterTable_noneSchema :
    let n : Sql.TableName := ⟨some "db", some "none", "t"⟩
    let after := ((ofTables inTwoSchemas).apply .tsql
      (.alterTable n [.addColumn ⟨"c", ⟨some "INT", []⟩, true, []⟩ false])).1.tables
    inTwoSchemas.map Table.key =
        [⟨upper "db", upper "none", upper "t"⟩, ⟨upper "db", "DBO", upper "t"⟩] ∧
      after[0]? = inTwoSchemas[0]? ∧ after[1]? ≠ inTwoSchemas[1]? := by
  decide +kernel

end Catalog

end ColumnLint
