import ColumnLint.Proofs.Offense
import ColumnLint.Proofs.Report
import ColumnLint.Report.Markdown

/-!
# What the findings of the rule say

Every finding of the rule is the one on an offense (`exists_offense_of_mem`), has the severity of
the settings, and names in its evidence the column and the signatures of the offense.  All offenses
make findings, or only those in the minority, which are the findings that deviate
(`findings_reportingMinority`).  The report on tables has these findings (`findings_analyze`), and
is classified by the severity of the settings (`classification_analyze`).
-/

namespace ColumnLint

open ColumnLint.Text

variable {tables : List Table} {s : Settings} {f : Finding} {n : String}

/-! ### Evidence -/

section Evidence

variable (x : Offense) (v : Severity)

@[simp] theorem lowered_column_finding :
    (x.finding v).lowered "column" = .ok (lower x.name) := rfl

@[simp] theorem lowered_thisSignature_finding :
    (x.finding v).lowered "this_signature" = .ok (lower x.signature) := rfl

@[simp] theorem lowered_dominantSignature_finding :
    (x.finding v).lowered "dominant_signature" = .ok (lower x.dominantSignature) := rfl

end Evidence

/-- Whether a finding reports another signature than the dominant one, without regard to case. -/
def Finding.deviates (f : Finding) : Bool :=
  f.lowered "this_signature" ≠ f.lowered "dominant_signature"

@[simp] theorem deviates_finding (x : Offense) (v : Severity) :
    (x.finding v).deviates = x.isMinority := by
  simp [Finding.deviates, Offense.isMinority]

/-- The findings on a lower-case column name. -/
def findingsOn (n : String) (fs : List Finding) : List Finding :=
  fs.filter fun f => f.lowered "column" = .ok n

theorem findingsOn_map_finding (n : String) (xs : List Offense) (v : Severity) :
    findingsOn n (xs.map fun x => x.finding v) =
      (xs.filter fun x => lower x.name = n).map fun x => x.finding v := by
  unfold findingsOn
  rw [List.filter_map]
  congr 1
  refine List.filter_congr fun x _ => ?_
  simp

/-! ### Findings and offenses -/

/-- The settings with all definitions reported. -/
def Settings.reportingAll (s : Settings) : Settings :=
  { s with minorityOnly := false }

/-- The settings with only the minority reported. -/
def Settings.reportingMinority (s : Settings) : Settings :=
  { s with minorityOnly := true }

/-- Unless the minority is asked for, all offenses make findings. -/
theorem mismatchedColumnFindings_eq_map (h : s.minorityOnly = false) (tables : List Table) :
    mismatchedColumnFindings tables s =
      (mismatchedColumns (s.occurrences tables)).map fun x => x.finding s.severity := by
  unfold mismatchedColumnFindings
  rw [List.filter_eq_self.mpr fun _ _ => by simp [h]]

/-- If the minority is asked for, the findings are those that deviate. -/
theorem findings_reportingMinority (s : Settings) (tables : List Table) :
    mismatchedColumnFindings tables s.reportingMinority =
      (mismatchedColumnFindings tables s.reportingAll).filter Finding.deviates := by
  have hall : s.reportingAll.minorityOnly = false := rfl
  rw [mismatchedColumnFindings_eq_map hall, List.filter_map]
  unfold mismatchedColumnFindings
  congr 1
  refine List.filter_congr fun x _ => ?_
  rw [Function.comp_apply, deviates_finding]
  rfl

/-- Every finding is about an offense. -/
theorem exists_offense_of_mem (hf : f ∈ mismatchedColumnFindings tables s) :
    ∃ x ∈ mismatchedColumns (s.occurrences tables), x.finding s.severity = f := by
  unfold mismatchedColumnFindings at hf
  obtain ⟨x, hx, hfinding⟩ := List.mem_map.mp hf
  exact ⟨x, (List.mem_filter.mp hx).1, hfinding⟩

theorem severity_of_mem (hf : f ∈ mismatchedColumnFindings tables s) :
    f.severity = s.severity := by
  obtain ⟨x, -, rfl⟩ := exists_offense_of_mem hf
  rfl

/-- The findings of a report are those of the rule. -/
theorem findings_analyze (tables : List Table) (s : Settings) (warnings : List String) :
    (analyze tables s warnings).findings = mismatchedColumnFindings tables s := by
  simp [analyze, lint, rules]

/-- The class of a report is the severity of the settings if there are findings. -/
theorem classification_analyze (tables : List Table) (s : Settings) (warnings : List String) :
    (analyze tables s warnings).classification =
      if mismatchedColumnFindings tables s = [] then none else some s.severity := by
  unfold Report.classification
  rw [findings_analyze, Report.worstOf_eq_ite fun f hf => severity_of_mem hf]

end ColumnLint
