import ColumnLint.Proofs.Catalog.Chain
import ColumnLint.Proofs.Catalog.Growth

/-!
# Statements over what is there

`IF NOT EXISTS` makes no difference.  The creation of a table that is there replaces it, and a
column that is added to a table comes to its columns, whatever their names
(`Catalog.guarded_statements`).

A script that is run once more over what it has left may still change nothing.  This is so if each
alteration spells the key of a table that the script itself has created before
(`Sql.SelfContained`).  In such a run each key is on its own: what becomes of its table is settled
by the statements and the table that is there at the start (`Catalog.find?_applyAll`), which does
not matter if the key is created and remains if it is not (`Sql.foldl_leaves`).
-/

namespace ColumnLint

namespace Catalog

variable {c c' : Catalog} {t u : Table} {k : TableKey}

/-! ### Lookups -/

theorem key_of_find? (h : c.find? k = some t) : t.key = k := by
  have hkey := List.find?_some h
  exact of_decide_eq_true hkey

theorem find?_eq_some_iff : c.find? k = some t ↔ t ∈ c.tables ∧ t.key = k := by
  constructor
  · intro h
    exact ⟨List.mem_of_find?_eq_some h, key_of_find? h⟩
  · rintro ⟨ht, rfl⟩
    obtain ⟨u, hu⟩ := Option.isSome_iff_exists.mp
      (isSome_find?_iff.mpr (List.mem_map_of_mem ht : t.key ∈ c.keys))
    rw [hu, List.inj_on_of_nodup_map c.distinct (List.mem_of_find?_eq_some hu) ht (key_of_find? hu)]

theorem find?_put (c : Catalog) (t : Table) (k : TableKey) :
    (c.put t).find? k = if k = t.key then some t else c.find? k := by
  refine Option.ext fun u => ?_
  rw [find?_eq_some_iff, mem_put]
  split_ifs with hk
  · rw [Option.some.injEq, hk]
    constructor
    · rintro ⟨rfl | ⟨-, hne⟩, hkey⟩
      · rfl
      · exact absurd hkey hne
    · rintro rfl
      exact ⟨.inl rfl, rfl⟩
  · rw [find?_eq_some_iff]
    constructor
    · rintro ⟨rfl | ⟨hu, -⟩, rfl⟩
      · exact absurd rfl hk
      · exact ⟨hu, rfl⟩
    · rintro ⟨hu, rfl⟩
      exact ⟨.inr ⟨hu, hk⟩, rfl⟩

theorem find?_mapColumns (c : Catalog) (key : TableKey) (f : Table → List Column) (k : TableKey) :
    (c.mapColumns key f).find? k =
      if k = key then (c.find? k).map fun t => { t with columns := f t } else c.find? k := by
  have hfind : (c.mapColumns key f).find? k =
      (c.find? k).map fun t => if t.key = key then { t with columns := f t } else t := by
    unfold find? mapColumns
    rw [List.find?_map]
    refine congrArg _ (congrArg (List.find? · c.tables) (funext fun t => ?_))
    rw [Function.comp_apply]
    split_ifs <;> rfl
  rw [hfind]
  cases h : c.find? k with
  | none => rw [Option.map_none, Option.map_none, ite_self]
  | some t =>
    obtain ⟨-, rfl⟩ := find?_eq_some_iff.mp h
    rw [Option.map_some, Option.map_some]
    split_ifs <;> rfl

/-- Catalogs with the same keys in the same order and the same tables under them are the same. -/
theorem eq_of_find? (hkeys : c.keys = c'.keys) (hfind : ∀ k, c.find? k = c'.find? k) : c = c' := by
  have htables : ∀ c : Catalog, c.keys.filterMap c.find? = c.tables := by
    intro c
    rw [keys, List.filterMap_map, List.filterMap_congr fun t ht => (?_ : _ = some t),
      List.filterMap_some]
    exact find?_eq_some_iff.mpr ⟨ht, rfl⟩
  ext1
  rw [← htables c, ← htables c', hkeys, funext hfind]

end Catalog

/-! ### Keys on their own -/

namespace Sql

variable {d : Dialect} {s : Statement} {ss : List Statement} {k : TableKey} {t : Table}
  {keys : List TableKey}

/-- The key that a statement spells for the table that it alters. -/
def Statement.spelled? (d : Dialect) : Statement → Option TableKey
  | .alterTable n _ => if n.name = "" then none else some (n.keyIn d)
  | _ => none

/-- Whether a statement that alters a table spells one of some keys. -/
def Statement.StandsOn (d : Dialect) (keys : List TableKey) (s : Statement) : Prop :=
  ∀ k ∈ (s.spelled? d).toList, k ∈ keys

instance (d : Dialect) (keys : List TableKey) (s : Statement) : Decidable (s.StandsOn d keys) :=
  inferInstanceAs (Decidable (∀ k ∈ (s.spelled? d).toList, k ∈ keys))

/-- Whether each statement that alters a table spells the key of one that statements before it
create. -/
def SelfContained (d : Dialect) (ss : List Statement) : Prop :=
  ∀ i (h : i < ss.length), ss[i].StandsOn d (createdKeys d (ss.take i))

instance (d : Dialect) (ss : List Statement) : Decidable (SelfContained d ss) :=
  inferInstanceAs
    (Decidable (∀ i (h : i < ss.length), ss[i].StandsOn d (createdKeys d (ss.take i))))

theorem selfContained_concat (h : SelfContained d (ss ++ [s])) :
    SelfContained d ss ∧ s.StandsOn d (createdKeys d ss) := by
  constructor
  · intro i hi
    have hstands := h i (by rw [List.length_append]; omega)
    rwa [List.getElem_append_left hi, List.take_append_of_le_length hi.le] at hstands
  · have hstands := h ss.length (by simp)
    rwa [List.getElem_concat_length rfl, List.take_left] at hstands

/-- What a statement leaves of the table of a key, if it alters the one whose key it spells. -/
def Statement.leaves (d : Dialect) (k : TableKey) (s : Statement) (o : Option Table) :
    Option Table :=
  match s.created? d with
  | some t => if k = t.key then some t else o
  | none => if some k = s.spelled? d then o.map (·.changeAll s.changes) else o

/-- A statement leaves the table that it creates. -/
theorem Statement.leaves_of_created? (h : s.created? d = some t) (o : Option Table) :
    s.leaves d t.key o = some t := by
  rw [leaves, h]
  exact if_pos rfl

/-- A key that is not created stands for the same table, unless it is one on which the statement
may stand. -/
theorem Statement.leaves_of_not_mem (hs : s.StandsOn d keys) (hkeys : k ∉ keys)
    (hk : k ∉ createdKeys d [s]) (o : Option Table) : s.leaves d k o = o := by
  rw [createdKeys_singleton] at hk
  unfold leaves
  cases h : s.created? d with
  | some t =>
    rw [h] at hk
    exact if_neg fun hkey => hk (List.mem_singleton.mpr hkey)
  | none =>
    refine if_neg fun hspelled => hkeys (hs k ?_)
    rw [← hspelled]
    exact List.mem_singleton_self k

/-- What a self-contained run leaves under a key: what was there if the key is not created, and
something that does not depend on it otherwise. -/
theorem foldl_leaves (h : SelfContained d ss) (k : TableKey) :
    (k ∉ createdKeys d ss → ∀ o, ss.foldl (fun o s => s.leaves d k o) o = o) ∧
      (k ∈ createdKeys d ss → ∀ o o', ss.foldl (fun o s => s.leaves d k o) o =
        ss.foldl (fun o s => s.leaves d k o) o') := by
  induction ss using List.reverseRecOn with
  | nil => exact ⟨fun _ _ => rfl, fun h => absurd h List.not_mem_nil⟩
  | append_singleton ss s ih =>
    obtain ⟨hss, hs⟩ := selfContained_concat h
    obtain ⟨ihkept, ihcreated⟩ := ih hss
    simp only [createdKeys_append, List.mem_append, List.foldl_append, List.foldl_cons,
      List.foldl_nil, not_or]
    constructor
    · rintro ⟨hbefore, hlast⟩ o
      rw [ihkept hbefore, s.leaves_of_not_mem hs hbefore hlast]
    · intro hk o o'
      by_cases hlast : k ∈ createdKeys d [s]
      · rw [createdKeys_singleton, Option.mem_toList, Option.map_eq_some_iff] at hlast
        obtain ⟨t, ht, rfl⟩ := hlast
        rw [s.leaves_of_created? ht, s.leaves_of_created? ht]
      · rw [ihcreated (hk.resolve_right hlast) o o']

end Sql

namespace Catalog

variable {c : Catalog} {d : Sql.Dialect} {s : Sql.Statement} {ss : List Sql.Statement}

/-- A statement that spells the key of a table that is there alters that table. -/
theorem altered?_eq_spelled? (hs : s.StandsOn d c.keys) : c.altered? d s = s.spelled? d := by
  cases s with
  | alterTable n changes =>
    by_cases hn : n.name = ""
    · exact (if_pos hn).trans (if_pos hn).symm
    · have hspelled : (Sql.Statement.alterTable n changes).spelled? d = some (n.keyIn d) :=
        if_neg hn
      unfold Sql.Statement.StandsOn at hs
      rw [hspelled] at hs ⊢
      exact altered?_of_mem changes hn (hs _ (List.mem_singleton_self _))
  | _ => rfl

/-- A statement acts on the table of each key on its own, if the one that it alters is there. -/
theorem find?_apply (hs : s.StandsOn d c.keys) (k : TableKey) :
    (c.apply d s).1.find? k = s.leaves d k (c.find? k) := by
  have haltered := altered?_eq_spelled? hs
  cases s with
  | createTable n columns ifAbsent =>
    rw [apply_createTable, Sql.Statement.leaves]
    cases (Sql.Statement.createTable n columns ifAbsent).created? d with
    | none => rfl
    | some t => exact find?_put c t k
  | alterTable n changes =>
    rw [apply_alterTable, haltered, Sql.Statement.leaves]
    cases (Sql.Statement.alterTable n changes).spelled? d with
    | none => rfl
    | some k' =>
      have hchange : (fun t : Table => { t with columns := Sql.TableChange.applyAll changes t }) =
          (·.changeAll changes) := funext fun t => (t.changeAll_eq changes).symm
      show (c.mapColumns k' (Sql.TableChange.applyAll changes)).find? k = _
      simp only [find?_mapColumns, hchange, Option.some.injEq]
      rfl
  | other => rfl

/-- Self-contained statements act on the table of each key on its own. -/
theorem find?_applyAll (h : Sql.SelfContained d ss) (c : Catalog) (k : TableKey) :
    (c.applyAll d ss).1.find? k = ss.foldl (fun o s => s.leaves d k o) (c.find? k) := by
  induction ss using List.reverseRecOn with
  | nil => rfl
  | append_singleton ss s ih =>
    obtain ⟨hss, hs⟩ := Sql.selfContained_concat h
    have hkeys : s.StandsOn d (c.applyAll d ss).1.keys := by
      intro k hk
      rw [keys_applyAll, mem_distinct]
      exact List.mem_append_right _ (hs k hk)
    rw [applyAll_concat, find?_apply hkeys, ih hss, List.foldl_concat]

/-- Statements that are applied once more create no other keys. -/
theorem keys_applyAll_applyAll (d : Sql.Dialect) (c : Catalog) (ss : List Sql.Statement) :
    ((c.applyAll d ss).1.applyAll d ss).1.keys = (c.applyAll d ss).1.keys := by
  rw [keys_applyAll, keys_applyAll, distinct_distinct_append, distinct_append,
    List.filter_eq_nil_iff.mpr, List.append_nil]
  intro k hk
  rw [mem_distinct] at hk
  rw [decide_eq_true_eq, not_not]
  exact List.mem_append_right _ hk

/-- Self-contained statements that are applied once more change nothing. -/
theorem applyAll_applyAll (h : Sql.SelfContained d ss) (c : Catalog) :
    ((c.applyAll d ss).1.applyAll d ss).1 = (c.applyAll d ss).1 := by
  refine eq_of_find? (keys_applyAll_applyAll d c ss) fun k => ?_
  obtain ⟨hkept, hcreated⟩ := Sql.foldl_leaves h k
  rw [find?_applyAll h, find?_applyAll h]
  by_cases hk : k ∈ Sql.createdKeys d ss
  · exact hcreated hk _ _
  · exact hkept hk _

/-! ### Statements with a guard -/

/-- A table is put over the one with its key without effect iff it is that one. -/
theorem put_eq_self_iff {t : Table} (h : t.key ∈ c.keys) : c.put t = c ↔ t ∈ c.tables := by
  constructor
  · intro heq
    rw [← heq]
    exact mem_put.mpr (.inl rfl)
  · intro ht
    refine eq_of_find? ?_ fun k => ?_
    · rw [keys_put, distinct_concat, distinct_keys, if_pos h]
    · rw [find?_put]
      split_ifs with hk
      · exact (find?_eq_some_iff.mpr ⟨ht, hk.symm⟩).symm
      · rfl

/-- A table with another column, which the definition describes. -/
def withColumn (t : Table) (definition : Sql.ColumnDefinition) : Table :=
  { t with columns := t.columns ++
      [definition.toColumn t.database t.schema t.name (t.columns.length + 1)] }

theorem withColumn_ne (t : Table) (definition : Sql.ColumnDefinition) :
    withColumn t definition ≠ t := by
  intro h
  have hlength := congrArg (fun u : Table => u.columns.length) h
  simp [withColumn] at hlength

/-- The table of a name gets a column that is added. -/
theorem tables_addColumn {n : Sql.TableName} {k : TableKey} (definition : Sql.ColumnDefinition)
    (ifAbsent : Bool) (hname : definition.name ≠ "") (h : c.Means d n (some k)) :
    (c.apply d (.alterTable n [.addColumn definition ifAbsent])).1.tables =
      c.tables.map fun u => if u.key = k then withColumn u definition else u := by
  rw [tables_alterTable, ← means_iff.mp h]
  refine List.map_congr_left fun u _ => ?_
  have hcolumns : Sql.TableChange.applyAll [.addColumn definition ifAbsent] u =
      (withColumn u definition).columns := if_neg hname
  simp only [hcolumns, Option.some.injEq]
  rfl

/-- A column that is added to a table changes it. -/
theorem addColumn_ne {n : Sql.TableName} {t : Table} (definition : Sql.ColumnDefinition)
    (ifAbsent : Bool) (hname : definition.name ≠ "") (ht : t ∈ c.tables)
    (h : c.Means d n (some t.key)) :
    (c.apply d (.alterTable n [.addColumn definition ifAbsent])).1 ≠ c := by
  intro heq
  have htables := tables_addColumn definition ifAbsent hname h
  rw [heq] at htables
  have hchanged : withColumn t definition ∈ c.tables := by
    rw [htables]
    exact List.mem_map.mpr ⟨t, ht, if_pos rfl⟩
  -- The changed table has the key of the one before, and only one table has this key.
  have hsame : c.find? t.key = some (withColumn t definition) :=
    find?_eq_some_iff.mpr ⟨hchanged, rfl⟩
  rw [find?_eq_some_iff.mpr ⟨ht, rfl⟩] at hsame
  exact withColumn_ne t definition (Option.some.inj hsame).symm

/-- What statements with `IF NOT EXISTS` do to a catalog.  They do what they do without it.  A table
that is created takes the place of the one with its key, which changes nothing iff it is the same.
A column that is added comes to the columns of the table that is meant, whatever their names.  A
script whose alterations spell tables that it has created before changes nothing if it is run once
more. -/
theorem guarded_statements (d : Sql.Dialect) (c : Catalog) :
    (∀ (n : Sql.TableName) (columns : List Sql.ColumnDefinition),
      c.apply d (.createTable n columns true) = c.apply d (.createTable n columns false)) ∧
    (∀ (n : Sql.TableName) (definition : Sql.ColumnDefinition)
        (before after : List Sql.TableChange),
      c.apply d (.alterTable n (before ++ .addColumn definition true :: after)) =
        c.apply d (.alterTable n (before ++ .addColumn definition false :: after))) ∧
    (∀ (n : Sql.TableName) (columns : List Sql.ColumnDefinition),
      match (Sql.Statement.createTable n columns true).created? d with
      | none => (c.apply d (.createTable n columns true)).1 = c
      | some t => t.key ∈ c.keys →
        (c.apply d (.createTable n columns true)).1.tables =
            c.tables.map (fun u => if u.key = t.key then t else u) ∧
          ((c.apply d (.createTable n columns true)).1 = c ↔ t ∈ c.tables)) ∧
    (∀ (n : Sql.TableName) (definition : Sql.ColumnDefinition), definition.name ≠ "" →
      ∀ t ∈ c.tables, c.Means d n (some t.key) →
      (c.apply d (.alterTable n [.addColumn definition true])).1.tables =
          c.tables.map (fun u => if u.key = t.key then withColumn u definition else u) ∧
        (c.apply d (.alterTable n [.addColumn definition true])).1 ≠ c) ∧
    ∀ (preparations : List (String × Sql.Preparation)) (dialect script : String),
      Sql.SelfContained (dialectOf dialect) (statementsIn preparations dialect script) →
      let once := (c.applyScript preparations dialect script).1
      (once.applyScript preparations dialect script).1 = once := by
  refine ⟨fun _ _ => rfl, fun n definition before after => ?_, fun n columns => ?_,
    fun n definition hname t ht hmeans => ?_, fun preparations dialect script h => ?_⟩
  · have happly : Sql.TableChange.applyAll (before ++ .addColumn definition true :: after) =
        Sql.TableChange.applyAll (before ++ .addColumn definition false :: after) := by
      funext t
      unfold Sql.TableChange.applyAll
      rw [List.foldl_append, List.foldl_append]
      rfl
    simp only [apply, happly]
  · rw [apply_createTable]
    cases (Sql.Statement.createTable n columns true).created? d with
    | none => rfl
    | some t =>
      intro hkey
      refine ⟨?_, put_eq_self_iff hkey⟩
      dsimp only
      rw [tables_put, if_pos hkey]
  · exact ⟨tables_addColumn definition true hname hmeans,
      addColumn_ne definition true hname ht hmeans⟩
  · intro once
    show (once.applyScript preparations dialect script).1 = once
    rw [applyScript_fst]
    show ((c.applyScript preparations dialect script).1.applyAll _ _).1 =
      (c.applyScript preparations dialect script).1
    rw [applyScript_fst]
    exact applyAll_applyAll h c

/-- A script of statements with guards. -/
def guardedScript : String :=
  "CREATE TABLE IF NOT EXISTS t (id BIGINT); ALTER TABLE t ADD COLUMN IF NOT EXISTS id INT"

/-- A column with the name of the one that is there. -/
def anotherId : Sql.ColumnDefinition := ⟨"id", ⟨some "BIGINT", []⟩, true, []⟩

/-- Over a table that is there the statements are effective once. -/
theorem guarded_statements_replayed :
    let c := ofTables [idTable none "PUBLIC" "T"]
    let t : Sql.TableName := ⟨none, none, "t"⟩
    let once := (c.applyScript Sql.standardPreparations "postgres" guardedScript).1
    (c.apply .postgres (.createTable t [anotherId] true)).1 ≠ c ∧
      (c.apply .postgres (.alterTable t [.addColumn anotherId true])).1 ≠ c ∧
      (once.applyScript Sql.standardPreparations "postgres" guardedScript).1 = once := by
  intro c t once
  obtain ⟨-, -, hcreate, hadd, hreplay⟩ := guarded_statements .postgres c
  have hcreated : (Sql.Statement.createTable t [anotherId] true).created? .postgres =
      some (Sql.tableOf ⟨"", "PUBLIC", "T"⟩ [anotherId]) := by
    decide +kernel
  have hreplaced := hcreate t [anotherId]
  rw [hcreated] at hreplaced
  refine ⟨?_, ?_, ?_⟩
  · obtain ⟨-, hsame⟩ := hreplaced (by decide +kernel)
    exact fun h => absurd (hsame.mp h) (by decide +kernel)
  · have hkey : t.keyIn .postgres = (idTable none "PUBLIC" "T").key := by decide +kernel
    have hmeans : c.Means .postgres t (some (idTable none "PUBLIC" "T").key) := by
      refine .inr ⟨by decide, ?_⟩
      rw [hkey]
      exact .exact (by decide +kernel)
    exact (hadd t anotherId (by decide) _ (by decide +kernel) hmeans).2
  · have hstatements : statementsIn Sql.standardPreparations "postgres" guardedScript =
        [.createTable t [anotherId] true,
          .alterTable t [.addColumn ⟨"id", ⟨some "INT", []⟩, true, []⟩ true]] := by
      decide +kernel
    refine hreplay _ _ _ ?_
    rw [hstatements]
    decide +kernel

/-- Scripts that create a table, once more with a guard, and add a column with a guard. -/
def guardedScripts : List (String × String) :=
  [("postgres", "CREATE TABLE t (a INT, b INT)"),
    ("postgres", "CREATE TABLE IF NOT EXISTS t (a BIGINT)"),
    ("postgres", "ALTER TABLE t ADD COLUMN IF NOT EXISTS a BIGINT")]

/-- The second script replaces the table of the first one, and the third one gives it a second
column of one name. -/
theorem guardedScripts_disturb :
    let columns (scripts : List (String × String)) :=
      (chain Sql.standardPreparations scripts).map fun t => t.columns.map fun c => (c.name, c.type)
    columns (guardedScripts.take 1) = [[("A", some "INT"), ("B", some "INT")]] ∧
      columns (guardedScripts.take 2) = [[("A", some "BIGINT")]] ∧
      columns guardedScripts = [[("A", some "BIGINT"), ("A", some "BIGINT")]] := by
  decide +kernel

end Catalog

end ColumnLint
