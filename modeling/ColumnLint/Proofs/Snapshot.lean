import ColumnLint.Proofs.Catalog.Unchanged
import ColumnLint.Snapshot
import Mathlib.Data.List.Infix

/-!
# Warnings about scripts

Sources are taken in one after another, each into the snapshot that the ones before have left
(`Snapshot.addAll_append`), and no warning is ever taken back (`Snapshot.warnings_prefix_addAll`).

The main result, `Snapshot.scripts_warn`, says when there is a warning about a script: iff its
statements keep the tables that are there as they are.  A script whose statements do nothing is one
of these, but so is one that creates a table once more as it is, or adds a column and drops it again
(`Snapshot.restating_script_warns`).
-/

namespace ColumnLint

deriving instance DecidableEq for Snapshot

namespace Snapshot

open ColumnLint.Text

variable {dialect : String} {s s' r : Snapshot} {source : Source} {before sources : List Source}

/-! ### Sources one after another -/

/-- Further sources are taken into the snapshot of the first ones. -/
theorem addAll_append (dialect : String) (s : Snapshot) (A B : List Source) :
    (s.addAll dialect (A ++ B)).1 =
      (s.addAll dialect A).1.bind fun s' => (s'.addAll dialect B).1 := by
  induction A generalizing s with
  | nil => rfl
  | cons source A ih =>
    rw [List.cons_append, addAll, addAll]
    rcases s.add dialect source with ⟨_ | s', notices⟩
    · rfl
    · exact ih s'

/-- When all sources can be taken in, so can the first ones, and then the others. -/
theorem exists_of_addAll_append {A B : List Source}
    (h : (s.addAll dialect (A ++ B)).1 = .ok r) :
    ∃ s', (s.addAll dialect A).1 = .ok s' ∧ (s'.addAll dialect B).1 = .ok r := by
  rw [addAll_append] at h
  cases hfirst : (s.addAll dialect A).1 with
  | error e =>
    rw [hfirst] at h
    exact nomatch h
  | ok s' =>
    rw [hfirst] at h
    exact ⟨s', rfl, h⟩

theorem addAll_singleton (dialect : String) (s : Snapshot) (source : Source) :
    (s.addAll dialect [source]).1 = (s.add dialect source).1 := by
  rw [addAll]
  rcases s.add dialect source with ⟨_ | s', notices⟩ <;> rfl

/-- The last source is taken into the snapshot of the others. -/
theorem ofSources_concat (hs : (ofSources dialect before).1 = .ok s) (source : Source) :
    (ofSources dialect (before ++ [source])).1 = (s.add dialect source).1 := by
  unfold ofSources at hs ⊢
  rw [addAll_append, hs]
  exact addAll_singleton dialect s source

/-! ### What a source adds -/

/-- A script can always be taken in. -/
theorem add_of_script {text : String} (hkind : source.kind = .sql)
    (htext : textOf source.octets = .ok text) (dialect : String) (s : Snapshot) :
    (s.add dialect source).1 = .ok (s.addScript dialect source.path text).1 := by
  rw [add, htext, hkind]

theorem tables_addScript (dialect : String) (s : Snapshot) (path text : String) :
    (s.addScript dialect path text).1.tables =
      ((Catalog.ofTables s.tables).applyAll (Catalog.dialectOf dialect)
        (Catalog.statementsIn Sql.standardPreparations dialect text)).1.tables := by
  rw [← Catalog.applyScript_fst]
  rfl

/-- There is a warning about a script iff it is not blank and leaves the list of the tables as it
is. -/
theorem warnings_addScript (dialect : String) (s : Snapshot) (path text : String) :
    (s.addScript dialect path text).1.warnings =
      if (s.addScript dialect path text).1.tables = s.tables ∧ isAllBlank text = false then
        s.warnings ++ [nothingTaken path]
      else s.warnings := by
  unfold addScript
  simp only [Bool.and_eq_true, decide_eq_true_eq, Bool.not_eq_true']

/-- Tables with distinct keys are the same list after a script iff its statements keep them. -/
theorem tables_addScript_eq_iff (hkeys : (s.tables.map Table.key).Nodup) (path text : String) :
    (s.addScript dialect path text).1.tables = s.tables ↔
      (Catalog.ofTables s.tables).Keeps (Catalog.dialectOf dialect)
        (Catalog.statementsIn Sql.standardPreparations dialect text) := by
  rw [← Catalog.applyAll_eq_self_iff, tables_addScript]
  have htables := Catalog.tables_ofTables hkeys
  constructor
  · intro h
    exact Catalog.ext (h.trans htables.symm)
  · intro h
    rw [h, htables]

/-- A document adds no warning. -/
theorem warnings_addDocument {text : String} (h : s.addDocument text = .ok s') :
    s'.warnings = s.warnings := by
  unfold addDocument at h
  cases hparse : Json.parse text with
  | error e =>
    rw [hparse] at h
    exact nomatch h
  | ok v =>
    rw [hparse] at h
    dsimp only at h
    cases htables : tablesOf v with
    | error e =>
      rw [htables] at h
      exact nomatch h
    | ok tables =>
      rw [htables] at h
      rw [← Except.ok.inj h]

/-- A source adds the warning about itself or none, and the warning only as a script that is not
blank. -/
theorem warnings_add (h : (s.add dialect source).1 = .ok s') :
    s'.warnings = s.warnings ∨
      s'.warnings = s.warnings ++ [nothingTaken source.path] ∧ source.kind = .sql ∧
        ∃ text, textOf source.octets = .ok text ∧ isAllBlank text = false := by
  cases htext : textOf source.octets with
  | error e =>
    rw [add, htext] at h
    exact nomatch h
  | ok text =>
    cases hkind : source.kind with
    | json =>
      rw [add, htext, hkind] at h
      exact .inl (warnings_addDocument h)
    | sql =>
      rw [add_of_script hkind htext] at h
      rw [← Except.ok.inj h, warnings_addScript]
      split_ifs with hwarns
      · exact .inr ⟨rfl, rfl, text, rfl, hwarns.2⟩
      · exact .inl rfl

theorem warnings_prefix_add (h : (s.add dialect source).1 = .ok s') :
    s.warnings <+: s'.warnings := by
  obtain hsame | ⟨hadded, -⟩ := warnings_add h
  · rw [hsame]
  · rw [hadded]
    exact List.prefix_append _ _

/-- No warning is taken back. -/
theorem warnings_prefix_addAll (h : (s.addAll dialect sources).1 = .ok r) :
    s.warnings <+: r.warnings := by
  induction sources generalizing s with
  | nil =>
    rw [← Except.ok.inj h]
  | cons source sources ih =>
    rw [← List.singleton_append] at h
    obtain ⟨s', hadd, hrest⟩ := exists_of_addAll_append h
    rw [addAll_singleton] at hadd
    exact (warnings_prefix_add hadd).trans (ih hrest)

/-! ### When there is a warning about a script -/

/-- The warnings about scripts.  Each source adds its own warning or none, and what it adds stays.
A script that is not blank can be taken in, and it adds the warning iff its statements keep the
tables that are there, whose keys are distinct; it does so if they do nothing, and does not if they
create a table with a new key. -/
theorem scripts_warn (hs : (ofSources dialect before).1 = .ok s) (source : Source) :
    (∀ s', (ofSources dialect (before ++ [source])).1 = .ok s' →
      s'.warnings = s.warnings ∨
        s'.warnings = s.warnings ++ [nothingTaken source.path] ∧ source.kind = .sql ∧
          ∃ text, textOf source.octets = .ok text ∧ isAllBlank text = false) ∧
    (∀ after r, (ofSources dialect (before ++ source :: after)).1 = .ok r →
      ∃ s', (ofSources dialect (before ++ [source])).1 = .ok s' ∧ s'.warnings <+: r.warnings) ∧
    ∀ text, source.kind = .sql → textOf source.octets = .ok text → isAllBlank text = false →
      (s.tables.map Table.key).Nodup →
      ∃ s', (ofSources dialect (before ++ [source])).1 = .ok s' ∧
        let d := Catalog.dialectOf dialect
        let c := Catalog.ofTables s.tables
        let statements := Catalog.statementsIn Sql.standardPreparations dialect text
        (s'.warnings = s.warnings ++ [nothingTaken source.path] ↔ c.Keeps d statements) ∧
        ((∀ statement ∈ statements, c.Inert d statement) → c.Keeps d statements) ∧
        ((∃ k ∈ Sql.createdKeys d statements, k ∉ s.tables.map Table.key) →
          ¬ c.Keeps d statements) := by
  have hconcat := ofSources_concat hs source
  refine ⟨fun s' h => warnings_add (hconcat ▸ h), ?_, ?_⟩
  · intro after r h
    rw [List.append_cons] at h
    obtain ⟨s', hadd, hrest⟩ := exists_of_addAll_append h
    exact ⟨s', hadd, warnings_prefix_addAll hrest⟩
  · intro text hkind htext hblank hkeys
    refine ⟨_, hconcat.trans (add_of_script hkind htext dialect s), ?_, Catalog.keeps_of_inert, ?_⟩
    · rw [warnings_addScript, ← tables_addScript_eq_iff hkeys source.path text]
      split_ifs with hwarns
      · exact iff_of_true rfl hwarns.1
      · refine iff_of_false (fun h => ?_) fun h => hwarns ⟨h, hblank⟩
        exact List.cons_ne_nil _ _ (List.self_eq_append_right.mp h)
    · rintro ⟨k, hk, hnew⟩ hkeeps
      have hknown := hkeeps.keys k hk
      rw [Catalog.keys, Catalog.tables_ofTables hkeys] at hknown
      exact hnew hknown

/-- A script that creates a table. -/
def creatingScript (path : String) : Source :=
  ⟨.sql, path, Utf8.encode "CREATE TABLE t (id INT)"⟩

/-- The table of this script. -/
def createdTable : Table :=
  ⟨none, "DBO", "T", [⟨none, "DBO", "T", "ID", some "INT", [], true, 1, []⟩]⟩

/-- A script that adds a column and drops it again. -/
def revokingText : String := "ALTER TABLE t ADD c INT; ALTER TABLE t DROP COLUMN C"

/-- There is a warning about a script that takes back what it does. -/
theorem scripts_warn_revoked :
    ∃ s', (ofSources "tsql" [creatingScript "a.sql", ⟨.sql, "b.sql", Utf8.encode revokingText⟩]).1 =
        .ok s' ∧ s'.warnings = [nothingTaken "b.sql"] := by
  have hs : (ofSources "tsql" [creatingScript "a.sql"]).1 = .ok ⟨[createdTable], []⟩ := by
    decide +kernel
  have htext : textOf (Utf8.encode revokingText) = .ok revokingText := by decide +kernel
  have hstatements : Catalog.statementsIn Sql.standardPreparations "tsql" revokingText =
      [.alterTable ⟨none, none, "t"⟩ [.addColumn ⟨"c", ⟨some "INT", []⟩, true, []⟩ false],
        .alterTable ⟨none, none, "t"⟩ [.dropColumns ["C"]]] := by
    decide +kernel
  obtain ⟨-, -, hscript⟩ := scripts_warn hs ⟨.sql, "b.sql", Utf8.encode revokingText⟩
  obtain ⟨s', hs', hwarns, -⟩ := hscript revokingText rfl htext (by decide +kernel)
    (List.nodup_singleton _)
  refine ⟨s', hs', hwarns.mpr ?_⟩
  rw [hstatements]
  exact ⟨by decide, by decide +kernel⟩

/-- A script that creates a table which is there gives a warning that nothing was taken from it. -/
theorem restating_script_warns :
    ((ofSources "tsql" [creatingScript "a.sql", creatingScript "b.sql"]).1.map warnings =
        .ok [nothingTaken "b.sql"]) ∧
      ∃ statement ∈ Catalog.statementsIn Sql.standardPreparations "tsql" "CREATE TABLE t (id INT)",
        statement.created? .tsql = some createdTable := by
  decide +kernel

end Snapshot

end ColumnLint
