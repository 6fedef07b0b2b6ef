import ColumnLint.Proofs.Finding
import Mathlib.Data.List.Basic

/-!
# Reports on tables have a Markdown form

Findings can come with any evidence, but those of the rule hold all that the sections show, so a
report on tables can always be written as Markdown (`exists_toMarkdown_analyze`).

The findings are put into sections one by one, which neither loses nor invents one
(`flatMap_findings_addTo`): the sections together hold the findings of the report
(`exists_sectionsOf`), each of which has its row.
-/

namespace ColumnLint

variable {fs : List Finding}

/-- Steps that are all done make a list of outcomes. -/
theorem exists_mapM_eq_ok {α β ε : Type} {f : α → Except ε β} {xs : List α}
    (h : ∀ a ∈ xs, ∃ b, f a = .ok b) : ∃ bs, xs.mapM f = .ok bs := by
  induction xs with
  | nil => exact ⟨[], rfl⟩
  | cons a xs ih =>
    obtain ⟨b, hb⟩ := h a (List.mem_cons_self ..)
    obtain ⟨bs, hbs⟩ := ih fun x hx => h x (List.mem_cons_of_mem _ hx)
    exact ⟨b :: bs, by rw [List.mapM_cons, hb, hbs]; rfl⟩

/-- Whether the finding is the one on some offense. -/
def Finding.IsOnOffense (f : Finding) : Prop :=
  ∃ (x : Offense) (v : Severity), x.finding v = f

theorem isOnOffense_of_mem {tables : List Table} {s : Settings} {f : Finding}
    (hf : f ∈ mismatchedColumnFindings tables s) : f.IsOnOffense := by
  obtain ⟨x, -, hx⟩ := exists_offense_of_mem hf
  exact ⟨x, s.severity, hx⟩

theorem Finding.IsOnOffense.exists_lowered_column {f : Finding} (h : f.IsOnOffense) :
    ∃ n, f.lowered "column" = .ok n := by
  obtain ⟨x, v, rfl⟩ := h
  exact ⟨_, lowered_column_finding x v⟩

theorem Finding.IsOnOffense.exists_row {f : Finding} (h : f.IsOnOffense) :
    ∃ row, f.row = .ok row := by
  obtain ⟨x, v, rfl⟩ := h
  exact ⟨_, rfl⟩

namespace Markdown

/-! ### Sections -/

/-- Putting a finding into its section adds it to those of the sections. -/
theorem flatMap_findings_addTo (sections : List Section) (name : String) (f : Finding) :
    ((addTo sections name f).flatMap Section.findings).Perm
      (sections.flatMap Section.findings ++ [f]) := by
  induction sections with
  | nil => exact .refl _
  | cons s sections ih =>
    unfold addTo
    split_ifs with hname
    · -- The finding joins its section, in front of those of the later sections.
      have hjoined : ({ s with others := s.others ++ [f] } : Section).findings =
          s.findings ++ [f] := rfl
      rw [List.flatMap_cons, List.flatMap_cons, hjoined, List.append_assoc, List.append_assoc]
      exact List.perm_append_comm.append_left _
    · rw [List.flatMap_cons, List.flatMap_cons, List.append_assoc]
      exact ih.append_left _

/-- Findings that name a column fall into sections, which hold them and no others. -/
theorem exists_sectionsOf (h : ∀ f ∈ fs, ∃ n, f.lowered "column" = .ok n) :
    ∃ sections, sectionsOf fs = .ok sections ∧
      (sections.flatMap Section.findings).Perm fs := by
  -- The sections so far hold some findings already, so the induction is for all of them.
  suffices hfrom : ∀ sections : List Section, ∃ sections',
      fs.foldlM (fun sections f => (f.lowered "column").map (addTo sections · f)) sections =
          .ok sections' ∧
        (sections'.flatMap Section.findings).Perm (sections.flatMap Section.findings ++ fs) from
    hfrom []
  induction fs with
  | nil => exact fun sections => ⟨sections, rfl, by rw [List.append_nil]⟩
  | cons f fs ih =>
    intro sections
    obtain ⟨n, hn⟩ := h f (List.mem_cons_self ..)
    obtain ⟨sections', hrest, hperm⟩ :=
      ih (fun g hg => h g (List.mem_cons_of_mem _ hg)) (addTo sections n f)
    refine ⟨sections', ?_, ?_⟩
    · rw [List.foldlM_cons, hn]
      exact hrest
    · have hmore := (flatMap_findings_addTo sections n f).append_right fs
      rw [List.append_assoc] at hmore
      exact hperm.trans hmore

/-- A section of findings on offenses has its lines. -/
theorem Section.exists_lines {s : Section} (h : ∀ f ∈ s.findings, f.IsOnOffense) :
    ∃ lines, s.lines = .ok lines := by
  obtain ⟨x, v, hfirst⟩ := h s.first (List.mem_cons_self ..)
  obtain ⟨rows, hrows⟩ := exists_mapM_eq_ok fun f hf => (h f hf).exists_row
  unfold Section.lines
  rw [hrows, ← hfirst]
  exact ⟨_, rfl⟩

end Markdown

/-! ### Reports -/

/-- A report of findings on offenses has a Markdown form. -/
theorem Report.exists_toMarkdown {r : Report} (h : ∀ f ∈ r.findings, f.IsOnOffense) :
    ∃ text, r.toMarkdown = .ok text := by
  obtain ⟨sections, hsections, hperm⟩ :=
    Markdown.exists_sectionsOf fun f hf => (h f hf).exists_lowered_column
  have hlines : ∀ s ∈ Markdown.ordered sections, ∃ lines, s.lines = .ok lines := by
    intro s hs
    refine Markdown.Section.exists_lines fun f hf => h f (hperm.subset ?_)
    exact List.mem_flatMap.mpr ⟨s, List.mem_mergeSort.mp hs, hf⟩
  obtain ⟨body, hbody⟩ := exists_mapM_eq_ok hlines
  unfold Report.toMarkdown
  rw [hsections]
  split_ifs
  · exact ⟨_, rfl⟩
  · show ∃ text, (Except.bind ((Markdown.ordered sections).mapM Markdown.Section.lines) _) = _
    rw [hbody]
    exact ⟨_, rfl⟩

/-- A report on tables has a Markdown form. -/
theorem exists_toMarkdown_analyze (tables : List Table) (s : Settings) (warnings : List String) :
    ∃ text, (analyze tables s warnings).toMarkdown = .ok text := by
  refine Report.exists_toMarkdown fun f hf => ?_
  rw [findings_analyze] at hf
  exact isOnOffense_of_mem hf

end ColumnLint
