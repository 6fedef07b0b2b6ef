import ColumnLint.Lint
import ColumnLint.Proofs.Finding
import ColumnLint.Proofs.Origin
import ColumnLint.Proofs.Text.Upper

/-!
# Excluding is deleting

The findings on tables are the findings, with nothing excluded, on what is left of the tables when
everything that the settings exclude is deleted first (`findings_prune`).

The rule looks at the columns that pruning leaves (`Settings.occurrences_eq`), but each occurrence
still comes from the table as it was.  So before and after the deletion the rule looks at lists
that differ in the origins of their members only (`Settings.occurrences_prune_eq_map`), and on
these it reports the same.  Of an origin a finding shows the names of the table, which pruning
keeps (`finding_withOrigin`).
-/

namespace ColumnLint

open ColumnLint.Text

variable {t : Table} {c : Column}

/-- The occurrences of all columns of a table. -/
def Table.occurrences (t : Table) : List Occurrence :=
  t.columns.map (Occurrence.ofColumn t)

/-! ### What is excluded -/

/-- Whether one of the patterns matches the name, without regard to case. -/
def MatchesSome (patterns : List String) (n : String) : Prop :=
  ∃ p ∈ patterns, Glob.accepts (lower p) (lower n)

theorem matchesAny_iff {names patterns : List String} :
    matchesAny names patterns ↔ ∃ n ∈ names, MatchesSome patterns n := by
  simp only [matchesAny, MatchesSome, List.any_eq_true]

/-- Whether the table can be meant by the name: its own, the one with its schema, or the one with
its database and schema, as far as it has them. -/
def Table.IsNamed (t : Table) (n : String) : Prop :=
  n = t.name ∨
    t.schema ≠ "" ∧ (n = t.schema ++ "." ++ t.name ∨
      ∃ d, t.database = some d ∧ d ≠ "" ∧ n = d ++ "." ++ t.schema ++ "." ++ t.name)

theorem mem_qualifiedNames {n : String} :
    n ∈ qualifiedNames t.name (some t.schema) t.database ↔ t.IsNamed n := by
  unfold qualifiedNames Table.IsNamed
  by_cases hschema : t.schema = ""
  · simp [hschema, Option.filter_some]
  · cases hdatabase : t.database with
    | none => simp [hschema, Option.filter_some]
    | some d => by_cases hd : d = "" <;> simp [hschema, hd, Option.filter_some]

/-- Whether the column lists, among the rules that it ignores, all rules or in any case this one. -/
def Column.OptsOut (c : Column) : Prop :=
  "*" ∈ c.ignored ∨ ∃ r ∈ c.ignored, upper r = "SRD0047"

theorem suppresses_iff : c.suppresses (some mismatchedColumnsRule) ↔ c.OptsOut := by
  have hrule : upper mismatchedColumnsRule = "SRD0047" := by decide
  have hnone : mismatchedColumnsRule ≠ "" := by decide
  unfold Column.suppresses Column.OptsOut
  simp [hrule, hnone, everyRule, upper_eq_star_iff, Option.filter_some]

namespace Settings

variable (s : Settings)

/-- Whether a pattern matches a name of the table. -/
def ExcludesTable (t : Table) : Prop :=
  ∃ n, t.IsNamed n ∧ MatchesSome s.excludeTables n

/-- Whether a pattern matches the name of the column, or the name with the one of its table. -/
def ExcludesColumn (t : Table) (c : Column) : Prop :=
  MatchesSome s.excludeColumns c.name ∨ MatchesSome s.excludeColumns (t.name ++ "." ++ c.name)

theorem coversTable_iff : s.exclusion.coversTable t ↔ s.ExcludesTable t := by
  unfold Exclusion.coversTable
  simp only [matchesAny_iff, mem_qualifiedNames]
  rfl

theorem coversColumn_iff : s.exclusion.coversColumn t c ↔ s.ExcludesColumn t c := by
  unfold Exclusion.coversColumn ExcludesColumn
  simp only [matchesAny_iff, List.mem_cons, List.not_mem_nil, or_false, exists_eq_or_imp,
    exists_eq_left]
  rfl

instance : DecidablePred s.ExcludesTable := fun _ =>
  decidable_of_iff _ s.coversTable_iff

instance : DecidablePred Column.OptsOut := fun _ =>
  decidable_of_iff _ suppresses_iff

instance (t : Table) : DecidablePred (s.ExcludesColumn t) := fun _ =>
  decidable_of_iff _ s.coversColumn_iff

/-! ### Pruned tables -/

/-- The table without the columns that are excluded or opt out. -/
def pruneTable (t : Table) : Table :=
  { t with columns := t.columns.filter fun c => ¬ (c.OptsOut ∨ s.ExcludesColumn t c) }

/-- The tables that are not excluded, without the columns that are excluded or opt out. -/
def prune (tables : List Table) : List Table :=
  (tables.filter fun t => ¬ s.ExcludesTable t).map s.pruneTable

/-- The settings with nothing excluded. -/
def withoutExclusions : Settings :=
  { s with excludeTables := [], excludeColumns := [] }

/-- The same declaration in the pruned table. -/
def pruneOrigin : Origin → Origin
  | .declared t c => .declared (s.pruneTable t) c
  | .described t c => .described t c

/-! ### Occurrences of pruned tables -/

/-- The rule looks at the columns that pruning leaves, in the tables as they were. -/
theorem occurrences_eq (tables : List Table) :
    s.occurrences tables = (tables.filter fun t => ¬ s.ExcludesTable t).flatMap fun t =>
      (s.pruneTable t).columns.map (Occurrence.ofColumn t) := by
  unfold Settings.occurrences occurrencesOf pruneTable
  simp only [← coversTable_iff, ← coversColumn_iff, ← suppresses_iff]
  simp

/-- Nothing that the rule looks at comes from a column that opts out. -/
theorem origin_ne_of_optsOut (h : c.OptsOut) {tables : List Table} {o : Occurrence}
    (ho : o ∈ s.occurrences tables) (t : Table) : o.origin ≠ .declared t c := by
  rw [s.occurrences_eq, List.mem_flatMap] at ho
  obtain ⟨t', -, ho⟩ := ho
  obtain ⟨c', hc', rfl⟩ := List.mem_map.mp ho
  rintro horigin
  obtain ⟨rfl, rfl⟩ := Origin.declared.inj horigin
  have hkept := of_decide_eq_true (List.mem_filter.mp hc').2
  exact hkept (.inl h)

theorem not_excludesTable_withoutExclusions : ¬ s.withoutExclusions.ExcludesTable t := by
  rintro ⟨n, -, p, hp, -⟩
  exact absurd hp List.not_mem_nil

theorem not_excludesColumn_withoutExclusions : ¬ s.withoutExclusions.ExcludesColumn t c := by
  rintro (⟨p, hp, -⟩ | ⟨p, hp, -⟩) <;> exact absurd hp List.not_mem_nil

/-- A table of which nothing is excluded stays as it is. -/
theorem pruneTable_eq_self (h : ∀ c ∈ t.columns, ¬ (c.OptsOut ∨ s.ExcludesColumn t c)) :
    s.pruneTable t = t := by
  unfold pruneTable
  rw [List.filter_eq_self.mpr fun c hc => decide_eq_true (h c hc)]

/-- With nothing excluded, nothing more is taken from a pruned table. -/
theorem pruneTable_pruneTable (t : Table) :
    s.withoutExclusions.pruneTable (s.pruneTable t) = s.pruneTable t := by
  refine s.withoutExclusions.pruneTable_eq_self fun c hc => ?_
  have hleft := of_decide_eq_true (List.mem_filter.mp hc).2
  exact not_or.mpr ⟨fun h => hleft (.inl h), s.not_excludesColumn_withoutExclusions⟩

/-- With nothing excluded, the rule looks at all columns of the pruned tables. -/
theorem occurrences_prune (tables : List Table) :
    s.withoutExclusions.occurrences (s.prune tables) =
      (s.prune tables).flatMap Table.occurrences := by
  have hall : (s.prune tables).filter (fun t => ¬ s.withoutExclusions.ExcludesTable t) =
      s.prune tables :=
    List.filter_eq_self.mpr fun _ _ => decide_eq_true s.not_excludesTable_withoutExclusions
  rw [occurrences_eq, hall, prune, List.flatMap_map, List.flatMap_map]
  refine List.flatMap_congr fun t _ => ?_
  rw [pruneTable_pruneTable]
  rfl

/-- The occurrences of the pruned tables are those that the rule looks at before, except that they
come from the pruned tables. -/
theorem occurrences_prune_eq_map (tables : List Table) :
    s.withoutExclusions.occurrences (s.prune tables) =
      (s.occurrences tables).map (Occurrence.withOrigin s.pruneOrigin) := by
  rw [occurrences_prune, occurrences_eq, prune, List.flatMap_map, List.map_flatMap]
  -- Of each table both sides list the columns left; one names the pruned table as their origin.
  refine List.flatMap_congr fun t _ => ?_
  rw [List.map_map]
  rfl

end Settings

/-! ### Findings -/

/-- A finding shows of a table only what pruning keeps. -/
theorem finding_withOrigin (s : Settings) (x : Offense) :
    (x.withOrigin s.pruneOrigin).finding s.severity = x.finding s.severity := by
  have hlocation : (x.withOrigin s.pruneOrigin).location = x.location := by
    unfold Offense.location Offense.withOrigin
    cases x.origin <;> rfl
  unfold Offense.finding
  rw [hlocation]
  rfl

/-- The findings are those on the pruned tables. -/
theorem findings_eq_prune (tables : List Table) (s : Settings) :
    mismatchedColumnFindings tables s =
      mismatchedColumnFindings (s.prune tables) s.withoutExclusions := by
  unfold mismatchedColumnFindings
  rw [Settings.occurrences_prune_eq_map, mismatchedColumns_withOrigin, List.filter_map,
    List.map_map]
  exact List.map_congr_left fun x _ => (finding_withOrigin s x).symm

/-! ### Places -/

/-- The place of an occurrence. -/
def Occurrence.location (o : Occurrence) : Location :=
  match o.origin with
  | .declared t _ => ⟨t.database, some t.schema, t.name, some o.name⟩
  | .described _ _ => ⟨none, none, o.table, some o.name⟩

theorem Offense.Reports.location {os : List Occurrence} {o : Occurrence} {x : Offense}
    (h : x.Reports os o) : x.location = o.location := by
  calc x.location
      = Offense.location { x with origin := o.origin, table := o.table, name := o.name } := by
        rw [← h.origin, ← h.table, ← h.name]
    _ = o.location := rfl

/-- The offenses are where the occurrences are that conflict, in their order. -/
theorem map_location_mismatchedColumns (os : List Occurrence) :
    (mismatchedColumns os).map Offense.location =
      (os.filter fun o => o.Conflicts os).map Occurrence.location :=
  map_mismatchedColumns fun _ _ h => h.location

/-- The findings are about occurrences that conflict, in their order. -/
theorem map_location_findings_sublist (tables : List Table) (s : Settings) :
    ((mismatchedColumnFindings tables s).map Finding.location).Sublist
      (((s.occurrences tables).filter fun o => o.Conflicts (s.occurrences tables)).map
        Occurrence.location) := by
  unfold mismatchedColumnFindings
  rw [List.map_map, ← map_location_mismatchedColumns]
  exact List.filter_sublist.map _

/-- Unless the minority is asked for, the findings are about all occurrences that conflict. -/
theorem map_location_findings (tables : List Table) (s : Settings) (h : s.minorityOnly = false) :
    (mismatchedColumnFindings tables s).map Finding.location =
      ((s.occurrences tables).filter fun o => o.Conflicts (s.occurrences tables)).map
        Occurrence.location := by
  rw [mismatchedColumnFindings_eq_map h, List.map_map, ← map_location_mismatchedColumns]
  rfl

/-! ### Excluding and deleting -/

/-- Excluding is deleting: the findings are those on the pruned tables.  They are about the columns
left that conflict with another one left, and tables that differ in excluded columns only have the
same findings. -/
theorem findings_prune (tables : List Table) (s : Settings) :
    mismatchedColumnFindings tables s =
        mismatchedColumnFindings (s.prune tables) s.withoutExclusions ∧
    (let left := (s.prune tables).flatMap Table.occurrences
      let places := (left.filter fun o => o.Conflicts left).map Occurrence.location
      ((mismatchedColumnFindings tables s).map Finding.location).Sublist places ∧
        (s.minorityOnly = false →
          (mismatchedColumnFindings tables s).map Finding.location = places)) ∧
    ∀ others, s.prune others = s.prune tables →
      mismatchedColumnFindings others s = mismatchedColumnFindings tables s := by
  refine ⟨findings_eq_prune tables s, ?_, ?_⟩
  · -- On the pruned tables nothing is excluded, so the rule looks at all that is left.
    rw [← s.occurrences_prune, findings_eq_prune]
    exact ⟨map_location_findings_sublist _ s.withoutExclusions,
      map_location_findings _ s.withoutExclusions⟩
  · intro others h
    rw [findings_eq_prune others, findings_eq_prune tables, h]

/-- A column of a table in the common schema. -/
def plainColumn (table name type : String) (ignored : List String) : Column :=
  ⟨none, commonSchema, table, name, some type, [], true, 1, ignored⟩

/-- Two tables that disagree on `Code`. -/
def codeTables : List Table :=
  [⟨none, commonSchema, "Orders", [plainColumn "Orders" "Code" "INT" []]⟩,
    ⟨none, commonSchema, "Items", [plainColumn "Items" "Code" "BIGINT" []]⟩]

/-- The same tables among a third one, with a column more each. -/
def auditedTables : List Table :=
  [⟨none, commonSchema, "Orders",
      [plainColumn "Orders" "Legacy_Code" "INT" [], plainColumn "Orders" "Code" "INT" []]⟩,
    ⟨none, "Audit", "Log", [plainColumn "Log" "Code" "BIGINT" []]⟩,
    ⟨none, commonSchema, "Items",
      [plainColumn "Items" "Code" "BIGINT" [], plainColumn "Items" "code" "BIGINT" ["srd0047"]]⟩]

/-- Settings that exclude a schema and a column of one table. -/
def auditSettings : Settings :=
  { Settings.standard with excludeTables := ["AUDIT.*"], excludeColumns := ["orders.legacy*"] }

/-- Columns that are excluded, by their table, by their name or by themselves, are not reported and
change no finding. -/
theorem findings_prune_auditedTables :
    auditSettings.prune auditedTables = auditSettings.prune codeTables ∧
    mismatchedColumnFindings auditedTables auditSettings =
      mismatchedColumnFindings codeTables auditSettings ∧
    auditSettings.minorityOnly = false ∧
    (mismatchedColumnFindings auditedTables auditSettings).map Finding.location =
      [⟨none, "PUBLIC", "Orders", some "Code"⟩, ⟨none, "PUBLIC", "Items", some "Code"⟩] := by
  have hprune : auditSettings.prune auditedTables = auditSettings.prune codeTables := by
    decide +kernel
  obtain ⟨-, ⟨-, hplaces⟩, -⟩ := findings_prune auditedTables auditSettings
  obtain ⟨-, -, hsame⟩ := findings_prune codeTables auditSettings
  exact ⟨hprune, hsame auditedTables hprune, rfl, (hplaces rfl).trans (by decide +kernel)⟩

end ColumnLint
