import ColumnLint.Proofs.Document.Json.RoundTrip
import ColumnLint.Proofs.Minority
import ColumnLint.Proofs.Report.Counts
import ColumnLint.Report.Json
import Mathlib.Algebra.Order.BigOperators.Group.List

/-!
# Reports as JSON are read back

The report on tables is read back from its JSON text as the document that was written, whatever
texts the names, signatures and warnings are (`parse_toJson`).

A reader without a limit for whole numbers reads every report back.  The reader of documents takes
numbers of at most `Json.longestInteger` digits, and no number of a report exceeds that of the
tables or that of their columns: a finding counts occurrences (`Offense.Reports.le_length`), an
occurrence is a column (`length_occurrences_le`), and the findings are at most as many as the
occurrences (`length_findings_le`).
-/

namespace ColumnLint

open ColumnLint.Text

variable {limit : Option Nat} {os : List Occurrence} {o : Occurrence} {x : Offense}
  {tables : List Table} {s : Settings} {n : Nat}

/-- Whole numbers below one that has few enough digits have few enough digits. -/
theorem Json.FitsLimit.mono {i : Int} (h : FitsLimit limit n) (hi : 0 ≤ i) (hle : i ≤ n) :
    FitsLimit limit i := by
  intro k hk
  have hbound : (Nat.toDigits 10 n).length ≤ k := h k hk
  have hpos : 0 < k := lt_of_lt_of_le (List.length_pos_of_ne_nil (toDigits_ne_nil n)) hbound
  rw [Nat.length_toDigits_le_iff (by decide) hpos] at hbound ⊢
  omega

/-! ### How great the numbers of a report are -/

/-- The number of columns of all tables. -/
def columnCount (tables : List Table) : Nat :=
  (tables.map (·.columns.length)).sum

/-- The occurrences that the rule looks at are some of the columns. -/
theorem length_occurrences_le (s : Settings) (tables : List Table) :
    (s.occurrences tables).length ≤ columnCount tables := by
  unfold Settings.occurrences occurrencesOf columnCount
  rw [List.length_flatMap]
  calc ((tables.filter fun t => !s.exclusion.coversTable t).map fun t =>
        ((t.columns.filter fun c => !(c.suppresses (some mismatchedColumnsRule) ||
          s.exclusion.coversColumn t c)).map (Occurrence.ofColumn t)).length).sum
      ≤ ((tables.filter fun t => !s.exclusion.coversTable t).map (·.columns.length)).sum := by
        refine List.sum_le_sum fun t _ => ?_
        rw [List.length_map]
        exact List.length_filter_le _ _
    _ ≤ (tables.map (·.columns.length)).sum :=
        (List.filter_sublist.map _).sum_le_sum fun _ _ => Nat.zero_le _

theorem length_findings_le (s : Settings) (tables : List Table) :
    (mismatchedColumnFindings tables s).length ≤ columnCount tables := by
  unfold mismatchedColumnFindings
  rw [List.length_map]
  calc ((mismatchedColumns (s.occurrences tables)).filter _).length
      ≤ (mismatchedColumns (s.occurrences tables)).length := List.length_filter_le _ _
    _ ≤ (s.occurrences tables).length := List.length_filterMap_le _ _
    _ ≤ columnCount tables := length_occurrences_le s tables

theorem length_loweredSignatures_le (os : List Occurrence) (name : String) :
    (loweredSignatures os name).length ≤ os.length := by
  unfold loweredSignatures occurrencesNamed
  rw [List.length_map]
  exact List.length_filter_le _ _

/-- What an offense counts are occurrences. -/
theorem Offense.Reports.le_length (h : x.Reports os o) :
    ∀ i ∈ [x.definitionCount, x.occurrencesOfSignature, x.dominantCount, x.totalOccurrences],
      0 ≤ i ∧ i ≤ os.length := by
  have hall := length_loweredSignatures_le os o.loweredName
  have hdefinitions := (loweredSignatures os o.loweredName).toFinset_card_le
  have hcount : ∀ sig, (loweredSignatures os o.loweredName).count sig ≤ os.length := fun sig =>
    le_trans List.count_le_length hall
  obtain ⟨sig, -, hdominant⟩ := h.dominantCount.1
  have hdominantLe := hcount sig
  have hownLe := hcount (lower o.signature)
  have hdefinitionCount := h.definitionCount
  have hoccurrences := h.occurrencesOfSignature
  have htotal := h.totalOccurrences
  intro i hi
  simp only [List.mem_cons, List.not_mem_nil, or_false] at hi
  rcases hi with rfl | rfl | rfl | rfl <;> omega

/-! ### The document of a report -/

theorem isPlain_ofText? (text : Option String) : (Value.ofText? text).IsPlain limit := by
  cases text with
  | none => exact .null
  | some text => exact .text text

/-- The place of a finding can be said. -/
theorem isPlain_location (l : Location) : l.toValue.IsPlain limit := by
  refine .object (by simp) fun m hm => ?_
  simp only [List.mem_cons, List.not_mem_nil, or_false] at hm
  rcases hm with rfl | rfl | rfl | rfl
  · exact isPlain_ofText? _
  · exact isPlain_ofText? _
  · exact .text _
  · exact isPlain_ofText? _

/-- The evidence for an offense can be said. -/
theorem isPlain_evidence
    (h : ∀ i ∈ [x.definitionCount, x.occurrencesOfSignature, x.dominantCount, x.totalOccurrences],
      Json.FitsLimit limit i) : (Value.object x.evidence).IsPlain limit := by
  refine .object (by simp [Offense.evidence]) fun m hm => ?_
  simp only [Offense.evidence, List.mem_cons, List.not_mem_nil, or_false] at hm
  rcases hm with rfl | rfl | rfl | rfl | rfl | rfl | rfl | rfl
  · exact .text _
  · exact .text _
  · exact .text _
  · exact .text _
  all_goals exact .int (h _ (by simp))

/-- A finding on an offense can be said. -/
theorem isPlain_finding (v : Severity)
    (h : ∀ i ∈ [x.definitionCount, x.occurrencesOfSignature, x.dominantCount, x.totalOccurrences],
      Json.FitsLimit limit i) : (x.finding v).toValue.IsPlain limit := by
  refine .object (by simp) fun m hm => ?_
  simp only [List.mem_cons, List.not_mem_nil, or_false] at hm
  rcases hm with rfl | rfl | rfl | rfl | rfl | rfl
  · exact .text _
  · exact .text _
  · exact .text _
  · exact isPlain_location _
  · exact isPlain_evidence h
  · exact .text _

/-- The counts of a report can be said. -/
theorem isPlain_counts {r : Report} (h : Json.FitsLimit limit n) (hle : r.findings.length ≤ n) :
    (Value.object (r.counts.map fun c => (c.1.name, .int c.2))).IsPlain limit := by
  have hkeys : ((r.counts.map fun c => (c.1.name, Value.int c.2)).map Prod.fst) =
      Severity.all.map Severity.name := by
    rw [Report.counts_eq, List.map_map, List.map_map]
    rfl
  refine .object ?_ fun m hm => ?_
  · rw [hkeys]
    decide
  · obtain ⟨⟨severity, number⟩, hcount, rfl⟩ := List.mem_map.mp hm
    have hnumber := Report.mem_counts_iff.mp hcount
    have hfindings := List.countP_le_length (p := fun f : Finding => decide (f.severity = severity))
      (l := r.findings)
    exact .int (h.mono (by omega) (by omega))

/-- The document of a report on tables can be said within a limit for the numbers of tables and
columns. -/
theorem isPlain_toValue_analyze (s : Settings) (warnings : List String)
    (htables : Json.FitsLimit limit tables.length)
    (hcolumns : Json.FitsLimit limit (columnCount tables)) :
    (analyze tables s warnings).toValue.IsPlain limit := by
  have hfindings : (analyze tables s warnings).findings.length ≤ columnCount tables := by
    rw [findings_analyze]
    exact length_findings_le s tables
  have hoccurrences := length_occurrences_le s tables
  refine .object (by simp) fun m hm => ?_
  simp only [List.mem_cons, List.not_mem_nil, or_false] at hm
  rcases hm with rfl | rfl | rfl | rfl | rfl | rfl
  · exact .text _
  · exact .int htables
  · exact .int (hcolumns.mono (by omega) (by omega))
  · exact isPlain_counts hcolumns hfindings
  · refine .list fun v hv => ?_
    obtain ⟨f, hf, rfl⟩ := List.mem_map.mp hv
    rw [findings_analyze] at hf
    obtain ⟨x, hx, rfl⟩ := exists_offense_of_mem hf
    obtain ⟨o, ho, hoffense⟩ := List.mem_filterMap.mp hx
    have hreports : x.Reports (s.occurrences tables) o := by
      have hown := of?_reports ho
      split_ifs at hown with hconflicts
      · obtain ⟨x', hx', hreports⟩ := hown
        obtain rfl := Option.some.inj (hoffense.symm.trans hx')
        exact hreports
      · exact nomatch hoffense.symm.trans hown
    refine isPlain_finding s.severity fun i hi => ?_
    obtain ⟨hnonneg, hle⟩ := hreports.le_length i hi
    exact hcolumns.mono hnonneg (by omega)
  · refine .list fun v hv => ?_
    obtain ⟨warning, -, rfl⟩ := List.mem_map.mp hv
    exact .text warning

/-! ### Reading a report back -/

/-- The JSON text of the report on tables is read as the document of the report: always, if there
is no limit for whole numbers, and with the limit of the reader, if the numbers of tables and of
columns can be told within it. -/
theorem parse_toJson (tables : List Table) (s : Settings) (warnings : List String) :
    let r := analyze tables s warnings
    Json.parseWithin none r.toJson = .ok r.toValue ∧
      (tables.length < 10 ^ Json.longestInteger → columnCount tables < 10 ^ Json.longestInteger →
        Json.parse r.toJson = .ok r.toValue) := by
  have hunlimited : ∀ i, Json.FitsLimit none i := by
    rintro i k ⟨⟩
  refine ⟨Json.parseWithin_print (isPlain_toValue_analyze s warnings (hunlimited _) (hunlimited _)),
    fun htables hcolumns => ?_⟩
  have hfits : ∀ m < 10 ^ Json.longestInteger,
      Json.FitsLimit (some Json.longestInteger) ((m : Nat) : Int) := by
    intro m hm k hk
    obtain rfl := Option.some.inj hk
    have hpos : 0 < Json.longestInteger := by decide
    exact (Nat.length_toDigits_le_iff (by decide) hpos).mpr hm
  exact Json.parseWithin_print (isPlain_toValue_analyze s warnings (hfits _ htables)
    (hfits _ hcolumns))

/-- Two tables that disagree on a column, with quotes, a backslash, a tab and a character beyond the
first `0x10000` in names and types. -/
def quotedTables : List Table :=
  [⟨some "db", commonSchema, "a\"b", [codeColumn "a\"b" "c\\d" "ENUM" ["'\t'", "'😀'"]]⟩,
    ⟨none, "é", "t", [codeColumn "t" "C\\D" "INT" []]⟩]

/-- A report with two findings and a warning with a control character is read back. -/
theorem parse_toJson_quotedTables :
    (analyze quotedTables .standard ["\u0001"]).findings.length = 2 ∧
      Json.parse (analyze quotedTables .standard ["\u0001"]).toJson =
        .ok (analyze quotedTables .standard ["\u0001"]).toValue := by
  have hfew : 2 < 10 ^ Json.longestInteger :=
    lt_of_lt_of_le (by decide : 2 < 10 ^ 1) (Nat.pow_le_pow_right (by decide) (by decide))
  exact ⟨by decide +kernel, (parse_toJson quotedTables .standard ["\u0001"]).2 hfew hfew⟩

end ColumnLint
