import ColumnLint.Proofs.Report
import Mathlib.Algebra.BigOperators.Group.List.Basic
import Mathlib.Algebra.Ring.Nat
import Mathlib.Data.List.DropRight

/-!
# How the counts of a report agree with its class

The findings of a report are counted by severity in one pass, the class is found in a second one,
and a threshold is compared with the class alone.  The three agree on findings of any mix of
severities: a report fails at a severity iff the numbers of that severity and the greater ones do
not sum to zero, and nothing depends on the order of the findings (`counts_agree`).

The pass that counts keeps the number of every severity (`counts_eq`).  All else is told by sums of
these numbers over a class of severities, which count the findings whose severity is in the class
(`sum_counts_filter`).
-/

namespace ColumnLint.Report

variable {r r' : Report} {s t : Severity} {n : Nat}

/-! ### Counting -/

/-- One more finding of a severity adds one to its number and leaves the others. -/
theorem tally_map (number : Severity → Nat) (s : Severity) :
    tally (Severity.all.map fun t => (t, number t)) s =
      Severity.all.map fun t => (t, number t + if s = t then 1 else 0) := by
  unfold tally
  rw [List.map_map]
  refine List.map_congr_left fun t _ => ?_
  by_cases h : t = s
  · simp [h]
  · simp [h, Ne.symm h]

/-- The number of a severity is that of the findings that have it. -/
theorem counts_eq (r : Report) :
    r.counts = Severity.all.map fun s => (s, r.findings.countP (·.severity = s)) := by
  unfold counts
  -- The pass goes from the front, so the induction is from the end.
  induction r.findings using List.reverseRecOn with
  | nil => rfl
  | append_singleton fs f ih =>
    rw [List.foldl_append, ih, List.foldl_cons, List.foldl_nil, tally_map]
    refine List.map_congr_left fun t _ => ?_
    have hlast : [f].countP (fun g => decide (g.severity = t)) =
        if f.severity = t then 1 else 0 := by
      simp [List.countP_singleton]
    rw [List.countP_append, hlast]

theorem mem_counts_iff : (s, n) ∈ r.counts ↔ r.findings.countP (·.severity = s) = n := by
  have hall : s ∈ Severity.all := by cases s <;> decide
  rw [counts_eq, List.mem_map]
  constructor
  · rintro ⟨t, -, ht⟩
    obtain ⟨rfl, hn⟩ := Prod.mk.inj ht
    exact hn
  · rintro rfl
    exact ⟨s, hall, rfl⟩

/-- Counting a severity once wherever it stands in a class counts it once if it is in the class. -/
theorem sum_map_one_filter_all (p : Severity → Bool) (s : Severity) :
    ((Severity.all.filter p).map fun t => if s = t then 1 else 0).sum = if p s then 1 else 0 := by
  have hcount : ∀ ts : List Severity,
      (ts.map fun t => if s = t then 1 else 0).sum = ts.countP (s = ·) := by
    intro ts
    induction ts with
    | nil => rfl
    | cons t ts ih => rw [List.map_cons, List.sum_cons, ih, List.countP_cons, Nat.add_comm]; simp
  have hone : Severity.all.countP (s = ·) = 1 := by cases s <;> decide
  have hown : Severity.all.countP (fun t => s = t && p t) =
      Severity.all.countP fun t => s = t && p s := by
    refine List.countP_congr fun t _ => ?_
    by_cases ht : s = t
    · rw [ht]
    · simp [ht]
  rw [hcount, List.countP_filter, hown]
  cases p s
  · simp
  · simpa using hone

/-- The numbers of the severities of a class sum to the number of findings in the class. -/
theorem sum_counts_filter (r : Report) (p : Severity → Bool) :
    ((r.counts.filter fun c => p c.1).map Prod.snd).sum =
      r.findings.countP fun f => p f.severity := by
  have hcounts : (r.counts.filter fun c => p c.1).map Prod.snd =
      (Severity.all.filter p).map fun s => r.findings.countP (·.severity = s) := by
    rw [counts_eq, List.filter_map, List.map_map]
    rfl
  rw [hcounts]
  induction r.findings with
  | nil => simp
  | cons f fs ih =>
    -- The finding adds one to the number of its own severity, if that is in the class.
    simp only [List.countP_cons, decide_eq_true_eq, List.sum_map_add, ih,
      sum_map_one_filter_all p f.severity]

theorem sum_counts (r : Report) : (r.counts.map Prod.snd).sum = r.findings.length := by
  have hsum := sum_counts_filter r fun _ => true
  rwa [List.filter_true, List.countP_true] at hsum

/-- A severity has a number above zero iff some finding has it. -/
theorem exists_mem_counts_iff :
    (∃ n, (s, n) ∈ r.counts ∧ n ≠ 0) ↔ ∃ f ∈ r.findings, f.severity = s := by
  simp only [mem_counts_iff, exists_eq_left', ne_eq, List.countP_eq_zero, decide_eq_true_eq]
  push Not
  rfl

/-! ### The class and the thresholds -/

/-- The class is the greatest severity with a number above zero. -/
theorem classification_eq_some_iff :
    r.classification = some s ↔
      (∃ n, (s, n) ∈ r.counts ∧ n ≠ 0) ∧ ∀ c ∈ r.counts, c.2 ≠ 0 → c.1.rank ≤ s.rank := by
  have hbound : (∀ c ∈ r.counts, c.2 ≠ 0 → c.1.rank ≤ s.rank) ↔
      ∀ f ∈ r.findings, f.severity.rank ≤ s.rank := by
    constructor
    · intro h f hf
      obtain ⟨n, hmem, hn⟩ := exists_mem_counts_iff.mpr ⟨f, hf, rfl⟩
      exact h (f.severity, n) hmem hn
    · rintro h ⟨t, n⟩ hmem hn
      obtain ⟨f, hf, rfl⟩ := exists_mem_counts_iff.mp ⟨n, hmem, hn⟩
      exact h f hf
  unfold classification
  rw [worstOf_eq_some_iff, exists_mem_counts_iff, hbound]

/-- A report fails at a severity iff the numbers of the severities from it on sum to more than
zero. -/
theorem fails_atLeast_eq (r : Report) (s : Severity) :
    r.fails (.atLeast s) =
      decide (0 < ((r.counts.filter fun c => s.rank ≤ c.1.rank).map Prod.snd).sum) := by
  have hsum := sum_counts_filter r fun t => s.rank ≤ t.rank
  rw [Bool.eq_iff_iff, fails_atLeast_iff, decide_eq_true_eq, hsum, List.countP_pos_iff]
  simp only [decide_eq_true_eq]

theorem fails_mono (h : s.rank ≤ t.rank) (hfails : r.fails (.atLeast t) = true) :
    r.fails (.atLeast s) = true := by
  obtain ⟨f, hf, hrank⟩ := fails_atLeast_iff.mp hfails
  exact fails_atLeast_iff.mpr ⟨f, hf, h.trans hrank⟩

/-- The word for a class is that of a severity iff it is this severity. -/
theorem className_eq_name_iff {c : Option Severity} : className c = s.name ↔ c = some s := by
  cases c with
  | none => cases s <;> decide
  | some t => cases s <;> cases t <;> decide

theorem className_eq_none_iff {c : Option Severity} : className c = "NONE" ↔ c = none := by
  cases c with
  | none => decide
  | some t => cases t <;> decide

/-! ### The order of the findings -/

theorem counts_perm (h : r'.findings.Perm r.findings) : r'.counts = r.counts := by
  rw [counts_eq, counts_eq]
  refine List.map_congr_left fun s _ => ?_
  rw [h.countP_eq]

theorem classification_perm (h : r'.findings.Perm r.findings) :
    r'.classification = r.classification := by
  ext s
  rw [classification_eq_some_iff, classification_eq_some_iff, counts_perm h]

/-- The numbers of a report are those of its findings by severity, the class is the greatest
severity with a number above zero, and a report fails at a severity iff the numbers from it on sum
to more than zero; so it fails at all lesser ones too.  None of this depends on the order of the
findings. -/
theorem counts_agree (r : Report) :
    r.counts = Severity.all.map (fun s => (s, (r.findings.filter (·.severity = s)).length)) ∧
    (r.counts.map Prod.snd).sum = r.findings.length ∧
    (className r.classification = "NONE" ↔ r.findings = []) ∧
    (∀ s : Severity, className r.classification = s.name ↔
      (∃ n, (s, n) ∈ r.counts ∧ n ≠ 0) ∧ ∀ c ∈ r.counts, c.2 ≠ 0 → c.1.rank ≤ s.rank) ∧
    (∀ s : Severity, r.failsAt s.name =
      .ok (decide (0 < ((r.counts.filter fun c => s.rank ≤ c.1.rank).map Prod.snd).sum))) ∧
    r.failsAt "NONE" = .ok false ∧
    (∀ s t : Severity, s.rank ≤ t.rank → r.failsAt t.name = .ok true →
      r.failsAt s.name = .ok true) ∧
    ∀ r' : Report, r'.findings.Perm r.findings →
      r'.counts = r.counts ∧ r'.classification = r.classification ∧
        ∀ word, r'.failsAt word = r.failsAt word := by
  have hword : ∀ s : Severity, r.failsAt s.name = .ok (r.fails (.atLeast s)) := fun s =>
    r.failsAt_name (.atLeast s)
  refine ⟨?_, r.sum_counts, ?_, fun s => ?_, fun s => ?_, r.failsAt_name .never,
    fun s t hrank ht => ?_, fun r' hperm => ?_⟩
  · simp only [counts_eq, List.countP_eq_length_filter]
  · rw [className_eq_none_iff]
    exact worstOf_eq_none_iff
  · rw [className_eq_name_iff, classification_eq_some_iff]
  · rw [hword, fails_atLeast_eq]
  · rw [hword, Except.ok.injEq] at ht ⊢
    exact fails_mono hrank ht
  · have hclass := classification_perm hperm
    exact ⟨counts_perm hperm, hclass, failsAt_congr hclass⟩

/-- A finding of a severity on nothing in particular. -/
def bareFinding (s : Severity) : Finding where
  rule := mismatchedColumnsRule
  kind := .mismatchedColumn
  severity := s
  location := ⟨none, none, "ORDERS", some "ID"⟩
  evidence := []
  description := ""

/-- A report on findings of these severities. -/
def ofSeverities (severities : List Severity) : Report :=
  ⟨severities.map bareFinding, [], 1⟩

/-- Two findings of low severity and one of medium fail at both, but not at high, in any order. -/
theorem counts_agree_lowAndMedium :
    (ofSeverities [.low, .medium, .low]).counts = [(.low, 2), (.medium, 1), (.high, 0)] ∧
      (ofSeverities [.low, .medium, .low]).failsAt "HIGH" = .ok false ∧
      (ofSeverities [.low, .medium, .low]).failsAt "MEDIUM" = .ok true ∧
      (ofSeverities [.low, .medium, .low]).failsAt "LOW" = .ok true ∧
      (ofSeverities [.medium, .low, .low]).failsAt "LOW" = .ok true := by
  obtain ⟨hcounts, -, -, -, hfails, -, hlesser, horder⟩ :=
    counts_agree (ofSeverities [.low, .medium, .low])
  have hmedium : (ofSeverities [.low, .medium, .low]).failsAt "MEDIUM" = .ok true :=
    (hfails .medium).trans (by decide)
  have hlow := hlesser .low .medium (by decide) hmedium
  have hperm : (ofSeverities [.medium, .low, .low]).findings.Perm
      (ofSeverities [.low, .medium, .low]).findings :=
    (List.Perm.swap Severity.low Severity.medium [Severity.low]).map bareFinding
  refine ⟨hcounts.trans (by decide), (hfails .high).trans (by decide), hmedium, hlow, ?_⟩
  exact ((horder _ hperm).2.2 "LOW").trans hlow

end ColumnLint.Report
