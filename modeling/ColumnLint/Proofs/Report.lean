import ColumnLint.Report
import Mathlib.Data.Nat.Basic
import Mathlib.Order.Basic

/-!
# How a report is classified

The class of a report is the greatest severity among its findings (`worstOf_eq_some_iff`), so a
report fails at a threshold iff one of its findings reaches it (`fails_atLeast_iff`).

The class is found by a fold that keeps the greater of two severities; that some finding has the
last one kept, and that none has a greater one, are inductions on the findings still to come.
-/

namespace ColumnLint

theorem Severity.rank_injective : Function.Injective Severity.rank := by
  intro s t h
  cases s <;> cases t <;> simp_all [rank]

/-- Every word of a threshold is read back. -/
theorem Threshold.ofName?_name (t : Threshold) : ofName? t.name = some t := by
  cases t with
  | never => decide
  | atLeast s => cases s <;> decide

namespace Report

variable {fs : List Finding} {r : Report} {s : Severity}

/-! ### The greatest severity -/

theorem worse_eq_or (s t : Severity) : worse s t = s ∨ worse s t = t := by
  unfold worse
  split_ifs
  · exact .inr rfl
  · exact .inl rfl

theorem rank_worse (s t : Severity) : (worse s t).rank = max s.rank t.rank := by
  unfold worse
  split_ifs with h
  · exact (max_eq_right h.le).symm
  · exact (max_eq_left (not_lt.mp h)).symm

/-- The severity kept at last is the first one or a finding has it. -/
theorem foldl_worse_mem (s : Severity) (fs : List Finding) :
    fs.foldl (fun s f => worse s f.severity) s = s ∨
      ∃ f ∈ fs, f.severity = fs.foldl (fun s f => worse s f.severity) s := by
  induction fs generalizing s with
  | nil => exact .inl rfl
  | cons f fs ih =>
    rw [List.foldl_cons]
    rcases ih (worse s f.severity) with hfirst | ⟨g, hg, hlast⟩
    · rw [hfirst]
      rcases worse_eq_or s f.severity with h | h
      · exact .inl h
      · exact .inr ⟨f, List.mem_cons_self .., h.symm⟩
    · exact .inr ⟨g, List.mem_cons_of_mem _ hg, hlast⟩

/-- Neither the first severity nor one of a finding is greater than the one kept at last. -/
theorem rank_le_foldl_worse (s : Severity) (fs : List Finding) :
    s.rank ≤ (fs.foldl (fun s f => worse s f.severity) s).rank ∧
      ∀ f ∈ fs, f.severity.rank ≤ (fs.foldl (fun s f => worse s f.severity) s).rank := by
  induction fs generalizing s with
  | nil => exact ⟨le_rfl, fun f hf => absurd hf List.not_mem_nil⟩
  | cons f fs ih =>
    rw [List.foldl_cons]
    obtain ⟨hfirst, hrest⟩ := ih (worse s f.severity)
    rw [rank_worse] at hfirst
    refine ⟨(le_max_left _ _).trans hfirst, fun g hg => ?_⟩
    rcases List.mem_cons.mp hg with rfl | hg
    · exact (le_max_right _ _).trans hfirst
    · exact hrest g hg

@[simp] theorem worstOf_eq_none_iff : worstOf fs = none ↔ fs = [] := by
  cases fs <;> simp [worstOf]

/-- The worst severity is one of the findings', and none of them has a greater one. -/
theorem worstOf_eq_some_iff :
    worstOf fs = some s ↔ (∃ f ∈ fs, f.severity = s) ∧ ∀ f ∈ fs, f.severity.rank ≤ s.rank := by
  have hspec : ∀ t, worstOf fs = some t →
      (∃ f ∈ fs, f.severity = t) ∧ ∀ f ∈ fs, f.severity.rank ≤ t.rank := by
    intro t ht
    cases fs with
    | nil => exact absurd ht (by simp [worstOf])
    | cons f fs =>
      obtain rfl := Option.some.inj ht
      obtain ⟨hfirst, hrest⟩ := rank_le_foldl_worse f.severity fs
      constructor
      · rcases foldl_worse_mem f.severity fs with h | ⟨g, hg, h⟩
        · exact ⟨f, List.mem_cons_self .., h.symm⟩
        · exact ⟨g, List.mem_cons_of_mem _ hg, h⟩
      · intro g hg
        rcases List.mem_cons.mp hg with rfl | hg
        · exact hfirst
        · exact hrest g hg
  constructor
  · exact hspec s
  · -- Of two severities that are found and are not exceeded, neither is greater.
    rintro ⟨⟨f, hf, rfl⟩, hle⟩
    cases ht : worstOf fs with
    | none => exact absurd (worstOf_eq_none_iff.mp ht ▸ hf) List.not_mem_nil
    | some t =>
      obtain ⟨⟨g, hg, rfl⟩, hle'⟩ := hspec t ht
      rw [Severity.rank_injective (le_antisymm (hle g hg) (hle' f hf))]

/-- Findings of one severity have it as their worst one. -/
theorem worstOf_eq_ite (h : ∀ f ∈ fs, f.severity = s) :
    worstOf fs = if fs = [] then none else some s := by
  split_ifs with hnone
  · exact worstOf_eq_none_iff.mpr hnone
  · obtain ⟨f, hf⟩ := List.exists_mem_of_ne_nil fs hnone
    exact worstOf_eq_some_iff.mpr ⟨⟨f, hf, h f hf⟩, fun g hg => (congrArg _ (h g hg)).le⟩

/-! ### Thresholds -/

/-- A report fails at a severity iff one of its findings has it or a greater one. -/
theorem fails_atLeast_iff : r.fails (.atLeast s) ↔ ∃ f ∈ r.findings, s.rank ≤ f.severity.rank := by
  unfold fails classification
  cases hworst : worstOf r.findings with
  | none =>
    rw [worstOf_eq_none_iff] at hworst
    simp [hworst]
  | some t =>
    obtain ⟨⟨f, hf, rfl⟩, hle⟩ := worstOf_eq_some_iff.mp hworst
    simp only [decide_eq_true_eq]
    constructor
    · exact fun h => ⟨f, hf, h⟩
    · rintro ⟨g, hg, h⟩
      exact h.trans (hle g hg)

/-- At the word of a threshold it is told whether the report fails there. -/
theorem failsAt_name (r : Report) (t : Threshold) : r.failsAt t.name = .ok (r.fails t) := by
  unfold failsAt
  rw [Threshold.ofName?_name]

/-- The class of a report is all that thresholds look at. -/
theorem failsAt_congr {r r' : Report} (h : r.classification = r'.classification) (word : String) :
    r.failsAt word = r'.failsAt word := by
  have hfails : r.fails = r'.fails := by
    funext t
    cases t <;> simp only [fails, h]
  unfold failsAt
  rw [hfails, h]

end Report

end ColumnLint
