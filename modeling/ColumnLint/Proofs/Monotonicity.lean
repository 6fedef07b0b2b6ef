import ColumnLint.Proofs.Pruning
import Mathlib.Data.List.Flatten

/-!
# More columns, more findings

With no filter on the minority, no exclusion creates a finding and no table hides one: when
patterns are added or tables left out, the places and signatures that are reported thin out, and
keep their order (`findings_monotone`).

The counts of a name and its dominant signature can change in any way when columns come or go.
The places and signatures that are reported do not depend on them: they are those of the
occurrences that conflict (`map_sighting_findings`), and an occurrence that conflicts with another
one still does so among more (`Occurrence.Conflicts.mono`).
-/

namespace ColumnLint

open ColumnLint.Text

/-! ### Places with their signatures -/

/-- The place of a finding with the signature that it reports there. -/
def Finding.sighting (f : Finding) : Location × Except EvidenceFault Value :=
  (f.location, f.entry "this_signature")

/-- The place of an occurrence with its signature. -/
def Occurrence.sighting (o : Occurrence) : Location × Except EvidenceFault Value :=
  (o.location, .ok (.text o.signature))

variable {os os' : List Occurrence} {o : Occurrence}

theorem Offense.Reports.sighting {x : Offense} (h : x.Reports os o) (v : Severity) :
    (x.finding v).sighting = o.sighting := by
  have hsignature : o.signature = x.signature := by
    unfold Occurrence.signature
    rw [h.signature, Option.getD_some]
  unfold Finding.sighting Occurrence.sighting
  rw [hsignature, ← h.location]
  rfl

/-- Unless the minority is asked for, all occurrences that conflict are reported, each with its own
signature. -/
theorem map_sighting_findings {s : Settings} (h : s.minorityOnly = false) (tables : List Table) :
    (mismatchedColumnFindings tables s).map Finding.sighting =
      ((s.occurrences tables).filter fun o => o.Conflicts (s.occurrences tables)).map
        Occurrence.sighting := by
  rw [mismatchedColumnFindings_eq_map h, List.map_map]
  exact map_mismatchedColumns fun o x hx => hx.sighting s.severity

/-! ### Conflicts among more occurrences -/

theorem Occurrence.Conflicts.mono (h : os ⊆ os') (ho : o.Conflicts os) : o.Conflicts os' := by
  obtain ⟨htyped, p, hp, hconflict⟩ := ho
  exact ⟨htyped, p, h hp, hconflict⟩

/-- Of fewer occurrences fewer conflict. -/
theorem filter_conflicts_sublist (h : os.Sublist os') :
    (os.filter fun o => o.Conflicts os).Sublist (os'.filter fun o => o.Conflicts os') := by
  have hmore :
      (os.filter fun o => o.Conflicts os).Sublist (os.filter fun o => o.Conflicts os') := by
    refine List.monotone_filter_right os fun o ho => ?_
    rw [decide_eq_true_eq] at ho ⊢
    exact ho.mono h.subset
  exact hmore.trans (h.filter _)

/-! ### What more patterns exclude -/

theorem MatchesSome.mono {patterns more : List String} {n : String} (hpatterns : patterns ⊆ more)
    (h : MatchesSome patterns n) : MatchesSome more n := by
  obtain ⟨p, hp, haccepts⟩ := h
  exact ⟨p, hpatterns hp, haccepts⟩

namespace Settings

variable {s s' : Settings} {t : Table} {c : Column}

theorem ExcludesTable.mono (hpatterns : s.excludeTables ⊆ s'.excludeTables)
    (h : s.ExcludesTable t) : s'.ExcludesTable t := by
  obtain ⟨n, hn, hmatches⟩ := h
  exact ⟨n, hn, hmatches.mono hpatterns⟩

theorem ExcludesColumn.mono (hpatterns : s.excludeColumns ⊆ s'.excludeColumns)
    (h : s.ExcludesColumn t c) : s'.ExcludesColumn t c :=
  Or.imp (MatchesSome.mono hpatterns) (MatchesSome.mono hpatterns) h

theorem columns_pruneTable_sublist (hpatterns : s.excludeColumns ⊆ s'.excludeColumns) (t : Table) :
    (s'.pruneTable t).columns.Sublist (s.pruneTable t).columns := by
  refine List.monotone_filter_right t.columns fun c hc => ?_
  rw [decide_eq_true_eq] at hc ⊢
  exact mt (Or.imp_right (ExcludesColumn.mono hpatterns)) hc

/-- Of fewer tables and with more patterns, the rule looks at fewer occurrences. -/
theorem occurrences_sublist {fewer tables : List Table} (htables : fewer.Sublist tables)
    (hexcludeTables : s.excludeTables ⊆ s'.excludeTables)
    (hexcludeColumns : s.excludeColumns ⊆ s'.excludeColumns) :
    (s'.occurrences fewer).Sublist (s.occurrences tables) := by
  have hkept : (fewer.filter fun t => ¬ s'.ExcludesTable t).Sublist
      (tables.filter fun t => ¬ s.ExcludesTable t) := by
    refine (List.monotone_filter_right fewer fun t ht => ?_).trans (htables.filter _)
    rw [decide_eq_true_eq] at ht ⊢
    exact mt (ExcludesTable.mono hexcludeTables) ht
  rw [occurrences_eq, occurrences_eq]
  -- First the columns of each table that is kept thin out, then the tables.
  refine (List.Sublist.flatMap_right _ fun t _ => ?_).trans (hkept.flatMap _)
  exact (columns_pruneTable_sublist hexcludeColumns t).map _

end Settings

/-! ### Findings -/

/-- Of fewer tables and with more patterns, the reported places and signatures thin out. -/
theorem map_sighting_findings_sublist {s s' : Settings} {fewer tables : List Table}
    (h : s.minorityOnly = false) (h' : s'.minorityOnly = false) (htables : fewer.Sublist tables)
    (hexcludeTables : s.excludeTables ⊆ s'.excludeTables)
    (hexcludeColumns : s.excludeColumns ⊆ s'.excludeColumns) :
    ((mismatchedColumnFindings fewer s').map Finding.sighting).Sublist
      ((mismatchedColumnFindings tables s).map Finding.sighting) := by
  rw [map_sighting_findings h, map_sighting_findings h']
  have hless := Settings.occurrences_sublist htables hexcludeTables hexcludeColumns
  exact (filter_conflicts_sublist hless).map _

/-- No exclusion creates a finding and no table hides one. -/
theorem findings_monotone (s : Settings) (h : s.minorityOnly = false) :
    (∀ (tables : List Table) (excludeTables excludeColumns : List String),
      s.excludeTables ⊆ excludeTables → s.excludeColumns ⊆ excludeColumns →
      ((mismatchedColumnFindings tables
          { s with excludeTables := excludeTables, excludeColumns := excludeColumns }).map
        Finding.sighting).Sublist ((mismatchedColumnFindings tables s).map Finding.sighting)) ∧
    ∀ fewer tables : List Table, fewer.Sublist tables →
      ((mismatchedColumnFindings fewer s).map Finding.sighting).Sublist
        ((mismatchedColumnFindings tables s).map Finding.sighting) := by
  refine ⟨fun tables excludeTables excludeColumns htables hcolumns => ?_,
    fun fewer tables hfewer => ?_⟩
  · exact map_sighting_findings_sublist h h (.refl tables) htables hcolumns
  · exact map_sighting_findings_sublist h h hfewer (List.Subset.refl _) (List.Subset.refl _)

/-- Three tables that disagree on `Id`, two of them with `INT`. -/
def storeTables : List Table :=
  [⟨none, commonSchema, "Orders", [plainColumn "Orders" "Id" "INT" []]⟩,
    ⟨none, commonSchema, "Items", [plainColumn "Items" "ID" "int" []]⟩,
    ⟨none, commonSchema, "Stock", [plainColumn "Stock" "id" "BIGINT" []]⟩]

/-- Two tables of another schema that have `BIGINT`. -/
def logTables : List Table :=
  [⟨none, "Audit", "Log", [plainColumn "Log" "Id" "BIGINT" []]⟩,
    ⟨none, "Audit", "Trail", [plainColumn "Trail" "Id" "BIGINT" []]⟩]

/-- Two tables more turn the majority of a name around; what is reported without them, because they
are excluded or left out, is still reported. -/
theorem findings_monotone_logTables :
    Settings.standard.minorityOnly = false ∧
    Settings.standard.excludeTables ⊆ ["AUDIT.*"] ∧ storeTables.Sublist (storeTables ++ logTables) ∧
    (mismatchedColumnFindings storeTables .standard).map (·.shown "dominant_signature") =
      [.ok "INT", .ok "INT", .ok "INT"] ∧
    (mismatchedColumnFindings (storeTables ++ logTables) .standard).map
        (·.shown "dominant_signature") =
      [.ok "BIGINT", .ok "BIGINT", .ok "BIGINT", .ok "BIGINT", .ok "BIGINT"] ∧
    ((mismatchedColumnFindings (storeTables ++ logTables)
        { Settings.standard with excludeTables := ["AUDIT.*"] }).map Finding.sighting).Sublist
      ((mismatchedColumnFindings (storeTables ++ logTables) .standard).map Finding.sighting) ∧
    ((mismatchedColumnFindings storeTables .standard).map Finding.sighting).Sublist
      ((mismatchedColumnFindings (storeTables ++ logTables) .standard).map Finding.sighting) := by
  have hpatterns : Settings.standard.excludeTables ⊆ ["AUDIT.*"] := List.nil_subset _
  have hless : storeTables.Sublist (storeTables ++ logTables) := List.sublist_append_left _ _
  obtain ⟨hexcluded, hleftOut⟩ := findings_monotone Settings.standard rfl
  refine ⟨rfl, hpatterns, hless, by decide +kernel, by decide +kernel, ?_, ?_⟩
  · exact hexcluded _ ["AUDIT.*"] [] hpatterns (List.Subset.refl _)
  · exact hleftOut _ _ hless

end ColumnLint
