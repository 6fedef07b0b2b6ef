import ColumnLint.CommandLine
import ColumnLint.Proofs.Minority
import ColumnLint.Proofs.Pruning
import ColumnLint.Proofs.Report.Markdown
import ColumnLint.Proofs.Snapshot

/-!
# When a run fails

A run that has loaded its settings and its sources prints the report and ends with 1 or 0, and it
ends with 1 iff the settings have a threshold that their severity reaches and two columns that the
rule looks at have one name and different types (`run_decision`).  Neither the form of the report
nor the filter on the minority has a say in it.

There are findings iff some occurrence that the rule looks at conflicts with another one
(`findings_ne_nil_iff`); the filter on the minority leaves none out of a name altogether.  All of
them have the severity of the settings, so that is the class of the report, and the threshold is
compared with it.  What is printed before cannot fail (`exists_printed`).
-/

namespace ColumnLint

open ColumnLint.Text CommandLine

variable {t : Table} {c : Column} {s : Settings} {tables : List Table}

/-! ### What the rule looks at -/

/-- The signature of a column whose type is not blank. -/
def Column.HasSignature (c : Column) (signature : String) : Prop :=
  ∃ base, c.type = some base ∧ ¬ isAllBlank base ∧ Signature.write base c.params = signature

theorem hasSignature_iff (t : Table) (c : Column) (signature : String) :
    c.HasSignature signature ↔
      (Occurrence.ofColumn t c).isTyped ∧ (Occurrence.ofColumn t c).signature = signature := by
  have hblank : isAllBlank "" = true := by decide
  unfold Column.HasSignature Occurrence.signature Occurrence.signature? Occurrence.isTyped
    Occurrence.ofColumn
  cases c.type with
  | none => simp
  | some base =>
    by_cases hbase : base = ""
    · simp [hbase, hblank, Option.filter_some]
    · cases hb : isAllBlank base <;> simp [Option.filter_some, hbase, hb]

namespace Settings

/-- Whether the rule looks at the column of the table: neither is excluded, and the column does not
opt out. -/
structure LooksAt (s : Settings) (t : Table) (c : Column) : Prop where
  table : ¬ s.ExcludesTable t
  column : ¬ s.ExcludesColumn t c
  rule : ¬ c.OptsOut

theorem mem_occurrences {o : Occurrence} :
    o ∈ s.occurrences tables ↔
      ∃ t ∈ tables, ∃ c ∈ t.columns, s.LooksAt t c ∧ Occurrence.ofColumn t c = o := by
  rw [occurrences_eq]
  simp only [List.mem_flatMap, List.mem_filter, List.mem_map, pruneTable, decide_eq_true_eq, not_or]
  constructor
  · rintro ⟨t, ⟨ht, htable⟩, c, ⟨hc, hrule, hcolumn⟩, rfl⟩
    exact ⟨t, ht, c, hc, ⟨htable, hcolumn, hrule⟩, rfl⟩
  · rintro ⟨t, ht, c, hc, hlooks, rfl⟩
    exact ⟨t, ⟨ht, hlooks.table⟩, c, ⟨hc, hlooks.rule, hlooks.column⟩, rfl⟩

/-- Whether the tables hold two columns that the rule looks at, with types that are not blank, of
one name and of different signatures, both without regard to case. -/
def FindsMismatch (s : Settings) (tables : List Table) : Prop :=
  ∃ t ∈ tables, ∃ c ∈ t.columns, ∃ t' ∈ tables, ∃ c' ∈ t'.columns,
    s.LooksAt t c ∧ s.LooksAt t' c' ∧ lower c.name = lower c'.name ∧
      ∃ signature signature', c.HasSignature signature ∧ c'.HasSignature signature' ∧
        lower signature ≠ lower signature'

/-- Whether a run on the tables is to fail: there is a threshold, the severity reaches it, and there
is a mismatch. -/
def FailsOn (s : Settings) (tables : List Table) : Prop :=
  (∃ v, s.failOn = .atLeast v ∧ v.rank ≤ s.severity.rank) ∧ s.FindsMismatch tables

/-- The rule looks at an occurrence that conflicts iff there is a mismatch. -/
theorem exists_conflicts_iff :
    (∃ o ∈ s.occurrences tables, o.Conflicts (s.occurrences tables)) ↔ s.FindsMismatch tables := by
  constructor
  · rintro ⟨o, ho, htyped, p, hp, htyped', hname, hsignature⟩
    obtain ⟨t, ht, c, hc, hlooks, rfl⟩ := mem_occurrences.mp ho
    obtain ⟨t', ht', c', hc', hlooks', rfl⟩ := mem_occurrences.mp hp
    exact ⟨t, ht, c, hc, t', ht', c', hc', hlooks, hlooks', hname.symm, _, _,
      (hasSignature_iff t c _).mpr ⟨htyped, rfl⟩, (hasSignature_iff t' c' _).mpr ⟨htyped', rfl⟩,
      hsignature.symm⟩
  · rintro ⟨t, ht, c, hc, t', ht', c', hc', hlooks, hlooks', hname, _, _, hsig, hsig', hne⟩
    obtain ⟨htyped, rfl⟩ := (hasSignature_iff t c _).mp hsig
    obtain ⟨htyped', rfl⟩ := (hasSignature_iff t' c' _).mp hsig'
    exact ⟨_, mem_occurrences.mpr ⟨t, ht, c, hc, hlooks, rfl⟩, htyped, _,
      mem_occurrences.mpr ⟨t', ht', c', hc', hlooks', rfl⟩, htyped', hname.symm, hne.symm⟩

end Settings

/-! ### Whether there are findings -/

theorem mismatchedColumns_eq_nil_iff {os : List Occurrence} :
    mismatchedColumns os = [] ↔ ∀ o ∈ os, ¬ o.Conflicts os := by
  rw [← List.map_eq_nil_iff (f := Offense.location), map_location_mismatchedColumns,
    List.map_eq_nil_iff, List.filter_eq_nil_iff]
  simp only [decide_eq_true_eq]

/-- There are findings iff there is a mismatch, in both modes. -/
theorem findings_ne_nil_iff : mismatchedColumnFindings tables s ≠ [] ↔ s.FindsMismatch tables := by
  have hall : mismatchedColumnFindings tables s.reportingAll ≠ [] ↔ s.FindsMismatch tables := by
    have hmode : s.reportingAll.minorityOnly = false := rfl
    rw [← Settings.exists_conflicts_iff, mismatchedColumnFindings_eq_map hmode, Ne,
      List.map_eq_nil_iff, mismatchedColumns_eq_nil_iff]
    push Not
    rfl
  -- The filter on the minority keeps a finding if there are any, so it has no say.
  cases hmode : s.minorityOnly with
  | false =>
    have hs : s.reportingAll = s := by rw [Settings.reportingAll, ← hmode]
    rwa [hs] at hall
  | true =>
    have hs : s.reportingMinority = s := by rw [Settings.reportingMinority, ← hmode]
    have hboth := findings_reportingMinority_eq_nil_iff s tables
    rw [hs] at hboth
    rw [Ne, hboth]
    exact hall

/-- The report on tables fails at the threshold of the settings iff there is a mismatch, and the
severity reaches the threshold. -/
theorem fails_analyze_iff (warnings : List String) :
    (analyze tables s warnings).fails s.failOn ↔ s.FailsOn tables := by
  unfold Settings.FailsOn
  cases hthreshold : s.failOn with
  | never => simp [Report.fails]
  | atLeast v =>
    rw [Report.fails_atLeast_iff, findings_analyze, ← findings_ne_nil_iff]
    constructor
    · rintro ⟨f, hf, hreaches⟩
      rw [severity_of_mem hf] at hreaches
      exact ⟨⟨v, rfl, hreaches⟩, List.ne_nil_of_mem hf⟩
    · rintro ⟨⟨v', hv', hreaches⟩, hne⟩
      obtain rfl := Threshold.atLeast.inj hv'
      obtain ⟨f, hf⟩ := List.exists_mem_of_ne_nil _ hne
      exact ⟨f, hf, by rwa [severity_of_mem hf]⟩

/-! ### Runs -/

namespace CommandLine.LintRequest

/-- The report on tables can be printed in either form. -/
theorem exists_printed (q : LintRequest) (tables : List Table) (s : Settings)
    (warnings : List String) : ∃ text, q.printed (analyze tables s warnings) = .ok text := by
  unfold printed
  cases q.format with
  | json => exact ⟨_, rfl⟩
  | markdown =>
    obtain ⟨text, htext⟩ := exists_toMarkdown_analyze tables s warnings
    exact ⟨text, by rw [htext]; rfl⟩

/-- A run that has loaded its settings and its sources prints the report on the tables, and its exit
code tells whether the report fails. -/
theorem run_of_loaded {around : Surroundings} {q : LintRequest} {s : Settings}
    {sources : List Source} {snapshot : Snapshot} {notices more : List Notice}
    (hsettings : q.settings around = .ok s)
    (hsources : Source.ofPaths around.entryAt q.paths = (.ok sources, notices))
    (hsnapshot : Snapshot.ofSources s.dialect.name sources = (.ok snapshot, more)) :
    ∃ text, q.run around =
      ⟨if (analyze snapshot.tables s snapshot.warnings).fails s.failOn then 1 else 0,
        text ++ "\n", "", notices ++ more⟩ := by
  obtain ⟨text, htext⟩ := q.exists_printed snapshot.tables s snapshot.warnings
  unfold run report
  simp only [hsettings, hsources, hsnapshot, htext]
  exact ⟨text, rfl⟩

end CommandLine.LintRequest

/-- Whether a run fails is always told, and it does iff there is a threshold that the severity
reaches and a mismatch.  Once settings and sources have loaded, the exit code is 1 in this case and
0 otherwise, and nothing is printed as an error. -/
theorem run_decision (s : Settings) :
    (∀ (tables : List Table) (warnings : List String), ∃ fails,
      (analyze tables s warnings).failsAt s.failOn.name = .ok fails ∧
        (fails = true ↔ s.FailsOn tables)) ∧
    ∀ (around : Surroundings) (arguments : List String) (q : LintRequest) (sources : List Source)
      (snapshot : Snapshot) (notices more : List Notice),
      request arguments = .lint q → q.settings around = .ok s →
      Source.ofPaths around.entryAt q.paths = (.ok sources, notices) →
      Snapshot.ofSources s.dialect.name sources = (.ok snapshot, more) →
      (run around arguments).errors = "" ∧
      (s.FailsOn snapshot.tables → (run around arguments).exitCode = 1) ∧
      (¬ s.FailsOn snapshot.tables → (run around arguments).exitCode = 0) := by
  constructor
  · intro tables warnings
    exact ⟨_, Report.failsAt_name _ _, fails_analyze_iff warnings⟩
  · intro around arguments q sources snapshot notices more hrequest hsettings hsources hsnapshot
    obtain ⟨text, hrun⟩ := LintRequest.run_of_loaded hsettings hsources hsnapshot
    have hlint : run around arguments = q.run around := by
      unfold run
      rw [hrequest]
    rw [hlint, hrun, ← fails_analyze_iff snapshot.warnings]
    exact ⟨rfl, fun h => if_pos h, fun h => if_neg h⟩

/-- A script whose two tables have an identifier each, of different types. -/
def idScript : String := "CREATE TABLE a (Id INT); CREATE TABLE b (ID BIT)"

/-- The identifier of a table. -/
def idColumn (table type : String) : Column :=
  ⟨none, "DBO", table, "ID", some type, [], true, 1, []⟩

/-- The tables of the script. -/
def idTables : List Table :=
  [⟨none, "DBO", "A", [idColumn "A" "INT"]⟩, ⟨none, "DBO", "B", [idColumn "B" "BIT"]⟩]

/-- A working directory with the script in it. -/
def idSurroundings : Surroundings where
  entryAt path := if path = "ids.sql" then some (.file (Utf8.encode idScript)) else none
  environment _ := none
  workingDirectory := "/work"
  homeDirectory := "/home"

/-- The script fails with the standard threshold, also where only the minority is reported. -/
theorem run_decision_idScript :
    let settings := { Settings.standard with minorityOnly := true }
    let arguments := ["lint", "ids.sql", "--minority-only", "--format", "markdown"]
    settings.FailsOn idTables ∧ (run idSurroundings arguments).errors = "" ∧
      (run idSurroundings arguments).exitCode = 1 := by
  intro settings arguments
  have hfails : settings.FailsOn idTables := by
    refine ⟨⟨.medium, rfl, le_rfl⟩, _, List.mem_cons_self .., _, List.mem_cons_self .., _,
      List.mem_cons_of_mem _ (List.mem_cons_self ..), _, List.mem_cons_self ..,
      ⟨?_, ?_, ?_⟩, ⟨?_, ?_, ?_⟩, rfl, "INT", "BIT", ⟨"INT", rfl, ?_, rfl⟩,
      ⟨"BIT", rfl, ?_, rfl⟩, ?_⟩ <;> decide +kernel
  let q : LintRequest := { paths := ["ids.sql"], format := .markdown, minorityOnly := true }
  have hrequest : request arguments = .lint q := by decide +kernel
  have hload : Settings.load idSurroundings q.config q.overrides = .ok settings := by
    decide +kernel
  have hsettings : q.settings idSurroundings = .ok settings :=
    congrArg (Except.mapError LintError.settings) hload
  have hsources : Source.ofPaths idSurroundings.entryAt q.paths =
      (.ok [⟨.sql, "ids.sql", Utf8.encode idScript⟩], []) := rfl
  have hsnapshot :
      Snapshot.ofSources settings.dialect.name [⟨.sql, "ids.sql", Utf8.encode idScript⟩] =
        (.ok ⟨idTables, []⟩, []) := by
    decide +kernel
  obtain ⟨herrors, hone, -⟩ :=
    (run_decision settings).2 idSurroundings arguments _ _ _ _ _ hrequest hsettings hsources
      hsnapshot
  exact ⟨hfails, herrors, hone hfails⟩

end ColumnLint
