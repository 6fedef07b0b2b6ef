import ColumnLint.Proofs.Catalog.Chain

/-!
# Statements that leave a catalog as it is

As long as no statement creates a table with a new key, each table of a catalog is on its own: what
a statement makes of it depends on the table and on the keys only, which stay as they are
(`Catalog.tables_applyAll`).  So statements leave a catalog as it is iff they create no table with a
new key and every table comes out of them as it went in (`Catalog.applyAll_eq_self_iff`), be it that
they do nothing, that they say what is there, or that one takes back what another one does.
-/

namespace ColumnLint

variable {d : Sql.Dialect} {c c' : Catalog} {s : Sql.Statement} {ss : List Sql.Statement}
  {t : Table}

/-- What a statement makes of a table of a catalog: the creation of a table of its key replaces it,
and an alteration that means it changes it. -/
def Table.after (d : Sql.Dialect) (c : Catalog) (t : Table) (s : Sql.Statement) : Table :=
  match s.created? d with
  | some u => if t.key = u.key then u else t
  | none => if some t.key = c.altered? d s then t.changeAll s.changes else t

/-- What statements make of a table of a catalog, one after another. -/
def Table.afterAll (d : Sql.Dialect) (c : Catalog) (t : Table) (ss : List Sql.Statement) : Table :=
  ss.foldl (Table.after d c) t

theorem Table.afterAll_concat (d : Sql.Dialect) (c : Catalog) (t : Table)
    (ss : List Sql.Statement) (s : Sql.Statement) :
    t.afterAll d c (ss ++ [s]) = (t.afterAll d c ss).after d c s :=
  List.foldl_concat ..

namespace Catalog

/-! ### Statements and keys -/

/-- What a key means depends on the keys only. -/
theorem Resolves.of_keys_eq {key : TableKey} {r : Option TableKey} (hkeys : c.keys = c'.keys)
    (h : c.Resolves key r) : c'.Resolves key r := by
  cases h with
  | exact hkey => exact .exact (hkeys ▸ hkey)
  | only hdatabase hkey k hk hname honly =>
    exact .only hdatabase (hkeys ▸ hkey) k (hkeys ▸ hk) hname (hkeys ▸ honly)
  | elsewhere hdatabase hkey => exact .elsewhere hdatabase (hkeys ▸ hkey)
  | absent hnone => exact .absent (hkeys ▸ hnone)
  | ambiguous hdatabase hkey k k' hk hk' hname hname' hne =>
    exact .ambiguous hdatabase (hkeys ▸ hkey) k k' (hkeys ▸ hk) (hkeys ▸ hk') hname hname' hne

theorem altered?_of_keys_eq (hkeys : c.keys = c'.keys) (s : Sql.Statement) :
    c.altered? d s = c'.altered? d s := by
  cases s with
  | alterTable n changes =>
    have hmeans : c.Means d n (c.altered? d (.alterTable n changes)) := means_iff.mpr rfl
    refine means_iff.mp ?_
    exact hmeans.imp_right fun h => ⟨h.1, h.2.of_keys_eq hkeys⟩
  | createTable | other => rfl

/-- A statement that creates no table with a new key acts on each table by itself. -/
theorem tables_apply (h : ∀ k ∈ Sql.createdKeys d [s], k ∈ c.keys) :
    (c.apply d s).1.tables = c.tables.map fun t => t.after d c s := by
  unfold Table.after
  cases s with
  | createTable n columns ifAbsent =>
    rw [apply_createTable]
    rw [Sql.createdKeys_singleton] at h
    cases hcreated : (Sql.Statement.createTable n columns ifAbsent).created? d with
    | none => exact (List.map_id' c.tables).symm
    | some t =>
      rw [hcreated] at h
      rw [tables_put, if_pos (h t.key (List.mem_singleton_self _))]
  | alterTable n changes =>
    rw [tables_alterTable]
    refine List.map_congr_left fun t _ => ?_
    rw [← Table.changeAll_eq]
    rfl
  | other => exact (List.map_id' c.tables).symm

/-- The keys stay as they are when no table with a new key is created. -/
theorem keys_applyAll_of_subset (h : ∀ k ∈ Sql.createdKeys d ss, k ∈ c.keys) :
    (c.applyAll d ss).1.keys = c.keys := by
  have hnone : (ColumnLint.distinct (Sql.createdKeys d ss)).filter (· ∉ c.keys) = [] := by
    rw [List.filter_eq_nil_iff]
    intro k hk
    rw [decide_eq_true_eq, not_not]
    exact h k (mem_distinct.mp hk)
  rw [keys_applyAll, distinct_append, distinct_keys, hnone, List.append_nil]

/-- Statements that create no table with a new key act on each table by itself. -/
theorem tables_applyAll (h : ∀ k ∈ Sql.createdKeys d ss, k ∈ c.keys) :
    (c.applyAll d ss).1.tables = c.tables.map fun t => t.afterAll d c ss := by
  induction ss using List.reverseRecOn with
  | nil => exact (List.map_id' c.tables).symm
  | append_singleton ss s ih =>
    rw [Sql.createdKeys_append, List.forall_mem_append] at h
    have hkeys := keys_applyAll_of_subset h.1
    have hstep := tables_apply (c := (c.applyAll d ss).1) (hkeys ▸ h.2)
    rw [applyAll_concat, hstep, ih h.1, List.map_map]
    refine List.map_congr_left fun t _ => ?_
    -- What the last statement alters is settled by the keys, which are still those of the start.
    rw [Function.comp_apply, Table.afterAll_concat, Table.after, Table.after,
      altered?_of_keys_eq hkeys]

/-! ### Statements without effect -/

/-- Whether statements keep a catalog as it is: none creates a table with a new key, and every table
comes out of them as it went in. -/
structure Keeps (c : Catalog) (d : Sql.Dialect) (ss : List Sql.Statement) : Prop where
  keys : ∀ k ∈ Sql.createdKeys d ss, k ∈ c.keys
  tables : ∀ t ∈ c.tables, t.afterAll d c ss = t

theorem applyAll_eq_self_iff : (c.applyAll d ss).1 = c ↔ c.Keeps d ss := by
  constructor
  · intro heq
    have hknown : ∀ k ∈ Sql.createdKeys d ss, k ∈ c.keys := by
      intro k hk
      rw [← heq, keys_applyAll, mem_distinct]
      exact List.mem_append_right _ hk
    have htables := tables_applyAll hknown
    rw [heq] at htables
    exact ⟨hknown, List.map_inj_left.mp (htables.symm.trans (List.map_id' c.tables).symm)⟩
  · rintro ⟨hknown, hsame⟩
    ext1
    rw [tables_applyAll hknown, List.map_congr_left hsame, List.map_id']

/-- Whether a statement does nothing to a catalog: it creates no table, and either alters none or
makes no change that concerns columns. -/
structure Inert (c : Catalog) (d : Sql.Dialect) (s : Sql.Statement) : Prop where
  created : s.created? d = none
  altered : c.altered? d s = none ∨ ∀ change ∈ s.changes, change = .other

/-- Changes that do not concern columns leave a table as it is. -/
theorem changeAll_of_other {changes : List Sql.TableChange}
    (h : ∀ change ∈ changes, change = .other) (t : Table) : t.changeAll changes = t := by
  induction changes with
  | nil => rfl
  | cons change changes ih =>
    obtain ⟨rfl, hrest⟩ := List.forall_mem_cons.mp h
    exact ih hrest

theorem Inert.after (h : c.Inert d s) (t : Table) : t.after d c s = t := by
  rw [Table.after, h.created]
  obtain hnone | hother := h.altered
  · rw [hnone]
    exact if_neg nofun
  · rw [changeAll_of_other hother]
    exact ite_self t

/-- Statements that do nothing keep a catalog as it is. -/
theorem keeps_of_inert (h : ∀ s ∈ ss, c.Inert d s) : c.Keeps d ss where
  keys := by
    have hnone : ss.filterMap (·.created? d) = [] :=
      List.filterMap_eq_nil_iff.mpr fun s hs => (h s hs).created
    intro k hk
    rw [Sql.createdKeys, hnone] at hk
    exact absurd hk List.not_mem_nil
  tables := by
    intro t _
    induction ss with
    | nil => rfl
    | cons s ss ih =>
      obtain ⟨hs, hrest⟩ := List.forall_mem_cons.mp h
      rw [Table.afterAll, List.foldl_cons, hs.after]
      exact ih hrest

end Catalog

end ColumnLint
