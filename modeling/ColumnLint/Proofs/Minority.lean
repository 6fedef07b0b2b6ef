import ColumnLint.Proofs.Finding
import ColumnLint.Proofs.Report

/-!
# Reporting the minority alone

With the filter on the minority, the findings that deviate from the dominant signature are left, so
on every contested name the findings are fewer by the dominant count, but some are left
(`minority_findings`).  A run therefore reports the same names in both modes, and is classified and
fails alike.

The offenses on a contested name are those of all its occurrences
(`filter_name_mismatchedColumns`).  Of these the ones with the dominating key do not deviate
(`NameGroup.Summarizes.isMinority_ofGroup`); they make up the dominant count, and as the name is
contested they are not all.
-/

namespace ColumnLint

open ColumnLint.Text

variable {os : List Occurrence} {n : String} {g : NameGroup} {d : DefinitionKey} {o : Occurrence}

/-! ### Offenses on one name -/

/-- The offense of an occurrence in the group of its name. -/
def Offense.inGroup (os : List Occurrence) (g : NameGroup) (o : Occurrence) : Offense :=
  Offense.ofGroup g (Bucket.ofKey os o.key) o

/-- The offenses on a contested name are those of its occurrences. -/
theorem filter_name_mismatchedColumns (hg : (n, g) ∈ contestedGroups os) :
    (mismatchedColumns os).filter (fun x => lower x.name = n) =
      (occurrencesNamed os n).map (Offense.inGroup os g) := by
  obtain ⟨hgroup, hkept⟩ := mem_contestedGroups.mp hg
  unfold mismatchedColumns Offense.select occurrencesNamed
  rw [List.filter_filterMap, ← List.filterMap_eq_map, List.filterMap_filter]
  refine List.filterMap_congr fun o ho => ?_
  by_cases htyped : o.isTyped = true
  · obtain ⟨hnamed, g', hgroup'⟩ := exists_ofName?_of_mem ho htyped
    rw [of?_contestedGroups hgroup' hnamed]
    by_cases hname : o.loweredName = n
    · rw [hname, hgroup] at hgroup'
      obtain rfl := Option.some.inj hgroup'
      rw [if_pos hkept, if_pos (by simp [htyped, hname]), Option.filter_some]
      exact if_pos (decide_eq_true hname)
    · have hother : ¬ (o.isTyped && decide (o.loweredName = n)) = true := by simp [hname]
      rw [if_neg hother]
      split_ifs
      · rw [Option.filter_some]
        exact if_neg fun h => hname (of_decide_eq_true h)
      · rfl
  · rw [of?_of_not_isTyped _ htyped, if_neg (by simp [htyped])]
    rfl

/-- An offense is on a contested name. -/
theorem mem_contestedGroups_of_mem {x : Offense} (hx : x ∈ mismatchedColumns os) :
    lower x.name ∈ (contestedGroups os).map Prod.fst := by
  obtain ⟨o, ho, hoffense⟩ := List.mem_filterMap.mp hx
  by_cases htyped : o.isTyped = true
  · obtain ⟨hnamed, g, hg⟩ := exists_ofName?_of_mem ho htyped
    rw [of?_contestedGroups hg hnamed] at hoffense
    split_ifs at hoffense with hkept
    obtain rfl := Option.some.inj hoffense
    exact List.mem_map.mpr ⟨(o.loweredName, g), mem_contestedGroups.mpr ⟨hg, hkept⟩, rfl⟩
  · rw [of?_of_not_isTyped _ htyped] at hoffense
    exact absurd hoffense (by simp)

namespace NameGroup.Summarizes

variable (h : g.Summarizes os n d)
include h

/-- In the minority are the occurrences of another key than the dominating one. -/
theorem isMinority_ofGroup (ho : o ∈ occurrencesNamed os n) :
    (Offense.inGroup os g o).isMinority = decide (o.key ≠ d) := by
  have hname : d.name = o.loweredName :=
    (mem_keysNamed.mp h.mem_keys).2.trans (mem_occurrencesNamed.mp ho).2.2.symm
  show decide (lower o.signature ≠ lower g.dominantSignature) = _
  rw [h.lower_dominantSignature, decide_eq_decide, ne_comm, ne_comm (a := o.key)]
  exact not_congr (signature_eq_iff hname)

/-- The occurrences that are not in the minority make up the dominant count. -/
theorem length_filter_not_isMinority :
    (((occurrencesNamed os n).map (Offense.inGroup os g)).filter (!·.isMinority)).length =
      g.dominantCount := by
  have hdominant : (occurrencesNamed os n).filter (fun o => o.key = d) = occurrencesAt os d := by
    rw [occurrencesAt_eq_filter, (mem_keysNamed.mp h.mem_keys).2]
  rw [h.dominantCount, ← hdominant, List.filter_map, List.length_map]
  congr 2
  refine List.filter_congr fun o ho => ?_
  rw [Function.comp_apply, h.isMinority_ofGroup ho]
  simp

/-- In a contested group some occurrence is in the minority. -/
theorem exists_isMinority (hkept : g.isKept) :
    ∃ o ∈ occurrencesNamed os n, (Offense.inGroup os g o).isMinority := by
  obtain ⟨o, ho, hkey⟩ := h.isKept_iff.mp hkept
  refine ⟨o, ho, ?_⟩
  rw [h.isMinority_ofGroup ho]
  exact decide_eq_true hkey

end NameGroup.Summarizes

/-! ### Findings in both modes -/

variable (s : Settings) (tables : List Table)

theorem findingsOn_reportingMinority (n : String) :
    findingsOn n (mismatchedColumnFindings tables s.reportingMinority) =
      (findingsOn n (mismatchedColumnFindings tables s.reportingAll)).filter Finding.deviates := by
  unfold findingsOn
  rw [findings_reportingMinority, List.filter_comm]

section Contested

variable {tables} {s} (hg : (n, g) ∈ contestedGroups (s.occurrences tables))
include hg

/-- The findings on a contested name are those on all its occurrences. -/
theorem findingsOn_reportingAll :
    findingsOn n (mismatchedColumnFindings tables s.reportingAll) =
      ((occurrencesNamed (s.occurrences tables) n).map
        (Offense.inGroup (s.occurrences tables) g)).map fun x => x.finding s.severity := by
  have hall : s.reportingAll.minorityOnly = false := rfl
  rw [mismatchedColumnFindings_eq_map hall, findingsOn_map_finding]
  exact congrArg _ (filter_name_mismatchedColumns hg)

/-- The findings on a contested name that the filter drops are as many as the dominant count. -/
theorem length_findingsOn :
    ((findingsOn n (mismatchedColumnFindings tables s.reportingAll)).length : ℤ) =
      (findingsOn n (mismatchedColumnFindings tables s.reportingMinority)).length +
        g.dominantCount := by
  obtain ⟨d, h⟩ := exists_summarizes (mem_contestedGroups.mp hg).1
  have hdropped : (((findingsOn n (mismatchedColumnFindings tables s.reportingAll)).filter
      (!·.deviates)).length : ℤ) = g.dominantCount := by
    rw [findingsOn_reportingAll hg, List.filter_map, List.length_map,
      ← h.length_filter_not_isMinority]
    simp only [Function.comp_def, deviates_finding]
  rw [List.length_eq_length_filter_add Finding.deviates, findingsOn_reportingMinority,
    Int.natCast_add, hdropped]

/-- On a contested name the filter leaves some finding. -/
theorem findingsOn_reportingMinority_ne_nil :
    findingsOn n (mismatchedColumnFindings tables s.reportingMinority) ≠ [] := by
  obtain ⟨hgroup, hkept⟩ := mem_contestedGroups.mp hg
  obtain ⟨d, h⟩ := exists_summarizes hgroup
  obtain ⟨o, ho, hminority⟩ := h.exists_isMinority hkept
  rw [findingsOn_reportingMinority, findingsOn_reportingAll hg]
  refine List.ne_nil_of_mem (List.mem_filter.mpr ⟨List.mem_map_of_mem (List.mem_map_of_mem ho), ?_⟩)
  rw [deviates_finding]
  exact hminority

end Contested

/-- All names on which there are findings are contested. -/
theorem mem_contestedGroups_of_findingsOn
    (h : findingsOn n (mismatchedColumnFindings tables s.reportingAll) ≠ []) :
    n ∈ (contestedGroups (s.occurrences tables)).map Prod.fst := by
  obtain ⟨f, hf⟩ := List.exists_mem_of_ne_nil _ h
  obtain ⟨hmem, hname⟩ := List.mem_filter.mp hf
  obtain ⟨x, hx, rfl⟩ := exists_offense_of_mem hmem
  rw [lowered_column_finding, decide_eq_true_eq, Except.ok.injEq] at hname
  rw [← hname]
  exact mem_contestedGroups_of_mem hx

/-- With the filter there are findings on the contested names, as without. -/
theorem findingsOn_ne_nil_iff (n : String) :
    (findingsOn n (mismatchedColumnFindings tables s.reportingAll) ≠ [] ↔
      n ∈ (contestedGroups (s.occurrences tables)).map Prod.fst) ∧
    (findingsOn n (mismatchedColumnFindings tables s.reportingMinority) ≠ [] ↔
      n ∈ (contestedGroups (s.occurrences tables)).map Prod.fst) := by
  have hfewer : findingsOn n (mismatchedColumnFindings tables s.reportingMinority) ≠ [] →
      findingsOn n (mismatchedColumnFindings tables s.reportingAll) ≠ [] := by
    rw [findingsOn_reportingMinority]
    exact mt fun h => by rw [h, List.filter_nil]
  have hcontested : n ∈ (contestedGroups (s.occurrences tables)).map Prod.fst →
      findingsOn n (mismatchedColumnFindings tables s.reportingMinority) ≠ [] := by
    intro hn
    obtain ⟨⟨n, g⟩, hg, rfl⟩ := List.mem_map.mp hn
    exact findingsOn_reportingMinority_ne_nil hg
  exact ⟨⟨mem_contestedGroups_of_findingsOn s tables, fun hn => hfewer (hcontested hn)⟩,
    ⟨fun h => mem_contestedGroups_of_findingsOn s tables (hfewer h), hcontested⟩⟩

/-- The filter leaves no finding only if there is none. -/
theorem findings_reportingMinority_eq_nil_iff :
    mismatchedColumnFindings tables s.reportingMinority = [] ↔
      mismatchedColumnFindings tables s.reportingAll = [] := by
  constructor
  · intro hnone
    by_contra hall
    obtain ⟨f, hf⟩ := List.exists_mem_of_ne_nil _ hall
    obtain ⟨x, hx, -⟩ := exists_offense_of_mem hf
    obtain ⟨⟨n, g⟩, hg, -⟩ := List.mem_map.mp (mem_contestedGroups_of_mem hx)
    have hleft : findingsOn n (mismatchedColumnFindings tables s.reportingMinority) ≠ [] :=
      findingsOn_reportingMinority_ne_nil hg
    rw [hnone] at hleft
    exact hleft rfl
  · intro hnone
    rw [findings_reportingMinority, hnone, List.filter_nil]

/-! ### Reports in both modes -/

/-- A report is classified alike in both modes. -/
theorem classification_reportingMinority (warnings : List String) :
    (analyze tables s.reportingMinority warnings).classification =
      (analyze tables s.reportingAll warnings).classification := by
  rw [classification_analyze, classification_analyze]
  simp only [findings_reportingMinority_eq_nil_iff]
  rfl

/-- The minority is what deviates of all findings: on a contested name they are fewer by the
dominant count, and some are left.  So both modes report the contested names, and are classified and
fail alike. -/
theorem minority_findings (tables : List Table) (s : Settings) (warnings : List String) :
    let all := analyze tables { s with minorityOnly := false } warnings
    let minority := analyze tables { s with minorityOnly := true } warnings
    let contested := contestedGroups (s.occurrences tables)
    minority.findings = all.findings.filter Finding.deviates ∧
    (∀ n g, (n, g) ∈ contested →
      ((findingsOn n all.findings).length : ℤ) =
          (findingsOn n minority.findings).length + g.dominantCount ∧
        findingsOn n minority.findings ≠ []) ∧
    (∀ n, (findingsOn n all.findings ≠ [] ↔ n ∈ contested.map Prod.fst) ∧
      (findingsOn n minority.findings ≠ [] ↔ n ∈ contested.map Prod.fst)) ∧
    minority.classification = all.classification ∧
    ∀ word, minority.failsAt word = all.failsAt word := by
  have hclass := classification_reportingMinority s tables warnings
  refine ⟨?_, ?_, ?_, hclass, Report.failsAt_congr hclass⟩
  · rw [findings_analyze, findings_analyze]
    exact findings_reportingMinority s tables
  · intro n g hg
    rw [findings_analyze, findings_analyze]
    exact ⟨length_findingsOn hg, findingsOn_reportingMinority_ne_nil hg⟩
  · rw [findings_analyze, findings_analyze]
    exact findingsOn_ne_nil_iff s tables

/-- A column `Code` of a table, in some spelling of its name and its type. -/
def codeColumn (table name type : String) (params : List String) : Column :=
  ⟨none, commonSchema, table, name, some type, params, true, 1, []⟩

/-- Four tables of which two disagree with two others on `Code`, all in different spellings. -/
def dividedTables : List Table :=
  [⟨none, commonSchema, "Orders", [codeColumn "Orders" "CODE" "varchar" ["10"]]⟩,
    ⟨none, commonSchema, "Items", [codeColumn "Items" "Code" "INT" []]⟩,
    ⟨none, commonSchema, "Stock", [codeColumn "Stock" "code" "VARCHAR" [" 10 "]]⟩,
    ⟨none, commonSchema, "Sales", [codeColumn "Sales" "cODE" "int" []]⟩]

/-- Of a tie the two findings with the lesser signature are dropped and the two others are left. -/
theorem minority_findings_dividedTables :
    ∃ g, ("code", g) ∈ contestedGroups (Settings.standard.occurrences dividedTables) ∧
      g.dominantSignature = "INT" ∧ g.dominantCount = 2 ∧
      (findingsOn "code" (analyze dividedTables .standard []).findings).length = 4 ∧
      (findingsOn "code" (analyze dividedTables
        { Settings.standard with minorityOnly := true } []).findings).length = 2 := by
  have hgroups : (contestedGroups (Settings.standard.occurrences dividedTables)).map
      (fun p => (p.1, p.2.dominantSignature, p.2.dominantCount)) = [("code", "INT", 2)] := by
    decide +kernel
  obtain ⟨⟨n, g⟩, hg, heq⟩ :
      ∃ p ∈ contestedGroups (Settings.standard.occurrences dividedTables),
        (p.1, p.2.dominantSignature, p.2.dominantCount) = ("code", "INT", 2) := by
    rw [← List.mem_map, hgroups]
    exact List.mem_singleton_self _
  obtain ⟨rfl, hsignature, hcount⟩ :
      n = "code" ∧ g.dominantSignature = "INT" ∧ g.dominantCount = 2 := by
    simpa using heq
  obtain ⟨-, hdropped, -⟩ := minority_findings dividedTables .standard []
  have hlength := (hdropped "code" g hg).1
  have hall : (findingsOn "code" (analyze dividedTables .standard []).findings).length = 4 := by
    decide +kernel
  refine ⟨g, hg, hsignature, hcount, hall, ?_⟩
  rw [hcount] at hlength
  have : (findingsOn "code" (analyze dividedTables .standard []).findings).length =
    (findingsOn "code" (analyze dividedTables
        { Settings.standard with minorityOnly := true } []).findings).length + 2 := by
    exact_mod_cast hlength
  omega

end ColumnLint
