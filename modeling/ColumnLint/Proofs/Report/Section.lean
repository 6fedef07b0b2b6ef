import ColumnLint.Proofs.Distinct
import ColumnLint.Proofs.Minority
import ColumnLint.Proofs.Report.Markdown

/-!
# The sections of a Markdown report

A report on findings that can be shown has one section for every column name, in which all findings
on the name stand in report order, and the sections stand in order of their worst severity, equal
ones in order of first appearance (`Markdown.Arranges`).  The head of a section is told by its first
finding alone; in a report on tables all findings of the section tell the same, and unless only the
minority is reported the counts of the head are those of the rows (`toMarkdown_sections`).

The findings are put into sections one by one, so what the sections hold is an induction from the
end of the report (`Markdown.holds_concat`).  That sections of equal severity keep their order is
the stability of the sort: it leaves the sections of each severity as they were
(`Markdown.filter_rank_ordered`).
-/

namespace ColumnLint

open ColumnLint.Text

/-- If steps in sequence are done, each is. -/
theorem exists_of_bind_eq_ok {α β ε : Type} {x : Except ε α} {f : α → Except ε β} {b : β}
    (h : x >>= f = .ok b) : ∃ a, x = .ok a ∧ f a = .ok b := by
  cases x with
  | error e => exact nomatch h
  | ok a => exact ⟨a, rfl, h⟩

/-- Steps are all done iff each has its outcome, one after another. -/
theorem mapM_eq_ok_iff {α β ε : Type} {f : α → Except ε β} {xs : List α} {ys : List β} :
    xs.mapM f = .ok ys ↔ List.Forall₂ (fun x y => f x = .ok y) xs ys := by
  induction xs generalizing ys with
  | nil =>
    rw [List.mapM_nil, List.forall₂_nil_left_iff]
    exact ⟨fun h => (Except.ok.inj h).symm, fun h => h ▸ rfl⟩
  | cons x xs ih =>
    rw [List.mapM_cons, List.forall₂_cons_left_iff]
    constructor
    · intro h
      obtain ⟨y, hy, h⟩ := exists_of_bind_eq_ok h
      obtain ⟨ys', hys', h⟩ := exists_of_bind_eq_ok h
      exact ⟨y, ys', hy, ih.mp hys', (Except.ok.inj h).symm⟩
    · rintro ⟨y, ys', hy, hys', rfl⟩
      rw [hy, ih.mpr hys']
      rfl

/-! ### What findings show -/

/-- Whether the evidence holds what a section shows, the column and the signatures as texts. -/
structure Finding.IsShowable (f : Finding) : Prop where
  column : ∃ s, f.evidence.lookup "column" = some (.text s)
  thisSignature : ∃ s, f.evidence.lookup "this_signature" = some (.text s)
  dominantSignature : ∃ s, f.evidence.lookup "dominant_signature" = some (.text s)
  definitionCount : ∃ v, f.evidence.lookup "definition_count" = some v
  occurrences : ∃ v, f.evidence.lookup "occurrence_of_this_signature" = some v
  dominantCount : ∃ v, f.evidence.lookup "dominant_count" = some v
  totalOccurrences : ∃ v, f.evidence.lookup "total_occurrences" = some v

namespace Finding

variable {f : Finding} {key row : String} {v : Value}

/-- The column name in lower case. -/
def columnName (f : Finding) : String :=
  (f.lowered "column").toOption.getD ""

/-- The lines above the rows of a section that the finding opens. -/
def headLines (f : Finding) : Except EvidenceFault (List String) := do
  let column ← f.shown "column"
  let definitions ← f.shown "definition_count"
  let total ← f.shown "total_occurrences"
  let dominant ← f.shown "dominant_signature"
  let count ← f.shown "dominant_count"
  return [
    "### " ++ Markdown.sign (some f.severity) ++ " " ++ column ++ " (" ++ f.rule ++ ")",
    "- **Definitions:** " ++ definitions ++ " across " ++ total ++ " tables",
    "- **Dominant Signature:** `" ++ dominant ++ "` (" ++ count ++ " tables)",
    "",
    "| Location | Signature | Tables With Signature | Matches Dominant |",
    "|----------|-----------|-----------------------|------------------|"]

theorem entry_of_lookup (h : f.evidence.lookup key = some v) : f.entry key = .ok v := by
  unfold entry
  rw [h]

theorem shown_of_lookup (h : f.evidence.lookup key = some v) : f.shown key = .ok v.display := by
  unfold shown
  rw [entry_of_lookup h]
  rfl

theorem lowered_of_lookup {s : String} (h : f.evidence.lookup key = some (.text s)) :
    f.lowered key = .ok (lower s) := by
  unfold lowered
  rw [entry_of_lookup h]

namespace IsShowable

variable (h : f.IsShowable)
include h

theorem lowered_column : f.lowered "column" = .ok f.columnName := by
  obtain ⟨s, hs⟩ := h.column
  unfold columnName
  rw [lowered_of_lookup hs]
  rfl

theorem exists_headLines : ∃ head, f.headLines = .ok head := by
  obtain ⟨column, hcolumn⟩ := h.column
  obtain ⟨definitions, hdefinitions⟩ := h.definitionCount
  obtain ⟨total, htotal⟩ := h.totalOccurrences
  obtain ⟨dominant, hdominant⟩ := h.dominantSignature
  obtain ⟨count, hcount⟩ := h.dominantCount
  unfold headLines
  rw [shown_of_lookup hcolumn, shown_of_lookup hdefinitions, shown_of_lookup htotal,
    shown_of_lookup hdominant, shown_of_lookup hcount]
  exact ⟨_, rfl⟩

theorem exists_row : ∃ row, f.row = .ok row := by
  obtain ⟨this, hthis⟩ := h.thisSignature
  obtain ⟨dominant, hdominant⟩ := h.dominantSignature
  obtain ⟨occurrences, hoccurrences⟩ := h.occurrences
  unfold row matchesDominant
  rw [lowered_of_lookup hthis, lowered_of_lookup hdominant, shown_of_lookup hthis,
    shown_of_lookup hoccurrences]
  exact ⟨_, rfl⟩

end IsShowable

/-- Whether a row says that the finding matches the dominant signature. -/
def rowMatches (row : String) : Bool :=
  " | Yes |".toList.isSuffixOf row.toList

/-- The row says whether the finding matches the dominant signature. -/
theorem matchesDominant_of_row (h : f.row = .ok row) :
    f.matchesDominant = .ok (rowMatches row) := by
  obtain ⟨agrees, hagrees, h⟩ := exists_of_bind_eq_ok h
  obtain ⟨signature, -, h⟩ := exists_of_bind_eq_ok h
  obtain ⟨occurrences, -, h⟩ := exists_of_bind_eq_ok h
  rw [hagrees, ← Except.ok.inj h]
  cases agrees <;> simp [rowMatches, List.isSuffixOf, List.isPrefixOf]

end Finding

theorem columnName_of_lowered {f : Finding} {n : String} (h : f.lowered "column" = .ok n) :
    f.columnName = n := by
  unfold Finding.columnName
  rw [h]
  rfl

namespace Markdown

variable {fs : List Finding} {sections : List Section} {s : Section} {f : Finding}
  {n : String}

/-! ### What sections hold -/

/-- Whether the sections hold the findings: there is one for every column name, in order of first
appearance, with all findings on the name. -/
structure Holds (fs : List Finding) (sections : List Section) : Prop where
  names : sections.map Section.name = distinct (fs.map Finding.columnName)
  findings : ∀ s ∈ sections, s.findings = findingsOn s.name fs

theorem names_addTo (sections : List Section) (n : String) (f : Finding) :
    (addTo sections n f).map Section.name =
      if n ∈ sections.map Section.name then sections.map Section.name
      else sections.map Section.name ++ [n] := by
  induction sections with
  | nil => rfl
  | cons s sections ih =>
    unfold addTo
    by_cases hname : s.name = n
    · rw [if_pos hname, if_pos (by simp [hname])]
      rfl
    · have hmem : n ∈ (s :: sections).map Section.name ↔ n ∈ sections.map Section.name := by
        simp [Ne.symm hname]
      rw [if_neg hname, List.map_cons, ih, List.map_cons, ← List.map_cons, if_congr hmem rfl rfl]
      split_ifs <;> rfl

/-- A section on another name is left as it was, and the one on the name has the finding at its end;
if there was none, it has no other. -/
theorem mem_addTo {t : Section} (hnodup : (sections.map Section.name).Nodup)
    (ht : t ∈ addTo sections n f) :
    t.name ≠ n ∧ t ∈ sections ∨
      t.name = n ∧ ((∃ s ∈ sections, s.name = n ∧ t.findings = s.findings ++ [f]) ∨
        n ∉ sections.map Section.name ∧ t.findings = [f]) := by
  induction sections with
  | nil =>
    obtain rfl := List.mem_singleton.mp ht
    exact .inr ⟨rfl, .inr ⟨List.not_mem_nil, rfl⟩⟩
  | cons s sections ih =>
    obtain ⟨hs, hnodup⟩ := List.nodup_cons.mp hnodup
    unfold addTo at ht
    split_ifs at ht with hname
    · rcases List.mem_cons.mp ht with rfl | ht
      · exact .inr ⟨hname, .inl ⟨s, List.mem_cons_self .., hname, rfl⟩⟩
      · -- No later section is on the name.
        refine .inl ⟨?_, List.mem_cons_of_mem _ ht⟩
        rintro rfl
        exact hs (hname ▸ List.mem_map_of_mem ht)
    · rcases List.mem_cons.mp ht with rfl | ht
      · exact .inl ⟨hname, List.mem_cons_self ..⟩
      · rcases ih hnodup ht with ⟨hother, ht⟩ | ⟨ht, ⟨s', hs', hfound⟩ | ⟨hnone, hnew⟩⟩
        · exact .inl ⟨hother, List.mem_cons_of_mem _ ht⟩
        · exact .inr ⟨ht, .inl ⟨s', List.mem_cons_of_mem _ hs', hfound⟩⟩
        · refine .inr ⟨ht, .inr ⟨?_, hnew⟩⟩
          rw [List.map_cons, List.mem_cons, not_or]
          exact ⟨Ne.symm hname, hnone⟩

/-- There are no findings on a name that no finding has. -/
theorem findingsOn_eq_nil (h : n ∉ fs.map Finding.columnName) : findingsOn n fs = [] := by
  refine List.filter_eq_nil_iff.mpr fun f hf hname => h ?_
  rw [← columnName_of_lowered (of_decide_eq_true hname)]
  exact List.mem_map_of_mem hf

/-- One more finding goes to the end of its section, or opens the last one. -/
theorem holds_concat (h : Holds fs sections) (hf : f.lowered "column" = .ok n) :
    Holds (fs ++ [f]) (addTo sections n f) := by
  have hname := columnName_of_lowered hf
  have hnodup : (sections.map Section.name).Nodup := h.names ▸ nodup_distinct _
  constructor
  · rw [names_addTo, h.names, List.map_append, List.map_singleton, hname, distinct_concat]
  · intro t ht
    unfold findingsOn
    rw [List.filter_append]
    rcases mem_addTo hnodup ht with ⟨hother, ht⟩ | ⟨rfl, ⟨s, hs, hsn, hjoined⟩ | ⟨hnone, hnew⟩⟩
    · have hne : ¬ f.lowered "column" = .ok t.name := by
        rw [hf, Except.ok.injEq]
        exact Ne.symm hother
      rw [List.filter_cons_of_neg (by simpa using hne), List.filter_nil, List.append_nil]
      exact h.findings t ht
    · rw [List.filter_cons_of_pos (by simpa using hf), List.filter_nil, hjoined, h.findings s hs,
        hsn]
      rfl
    · rw [List.filter_cons_of_pos (by simpa using hf), List.filter_nil, hnew]
      rw [h.names, mem_distinct] at hnone
      exact congrArg (· ++ [f]) (findingsOn_eq_nil hnone).symm

/-- Findings that name a column fall into sections that hold them. -/
theorem holds_sectionsOf (h : ∀ f ∈ fs, f.lowered "column" = .ok f.columnName)
    (hsections : sectionsOf fs = .ok sections) : Holds fs sections := by
  induction fs using List.reverseRecOn generalizing sections with
  | nil =>
    obtain rfl := Except.ok.inj hsections
    exact ⟨rfl, fun s hs => absurd hs List.not_mem_nil⟩
  | append_singleton fs f ih =>
    unfold sectionsOf at hsections
    rw [List.foldlM_append] at hsections
    obtain ⟨earlier, hearlier, hlast⟩ := exists_of_bind_eq_ok hsections
    have hf := h f (List.mem_append_right _ (List.mem_singleton_self f))
    rw [List.foldlM_cons, hf] at hlast
    obtain rfl := Except.ok.inj hlast
    exact holds_concat (ih (fun g hg => h g (List.mem_append_left _ hg)) hearlier) hf

/-! ### The order of sections -/

/-- The rank of a section is the greatest one of its findings. -/
theorem Section.isGreatest_rank (s : Section) :
    IsGreatest {k | ∃ f ∈ s.findings, f.severity.rank = k} s.rank := by
  obtain ⟨name, first, others⟩ := s
  show IsGreatest {k | ∃ f ∈ first :: others, f.severity.rank = k}
    (others.foldl (fun n f => max n f.severity.rank) first.severity.rank)
  induction others using List.reverseRecOn with
  | nil => simp [IsGreatest]
  | append_singleton others f ih =>
    have hmore : {k | ∃ g ∈ first :: (others ++ [f]), g.severity.rank = k} =
        insert f.severity.rank {k | ∃ g ∈ first :: others, g.severity.rank = k} := by
      ext k
      constructor
      · rintro ⟨g, hg, rfl⟩
        rw [← List.cons_append, List.mem_append, List.mem_singleton] at hg
        rcases hg with hg | rfl
        · exact .inr ⟨g, hg, rfl⟩
        · exact .inl rfl
      · rintro (rfl | ⟨g, hg, rfl⟩)
        · exact ⟨f, by simp, rfl⟩
        · exact ⟨g, List.mem_append_left [f] hg, rfl⟩
    rw [List.foldl_append, List.foldl_cons, List.foldl_nil, hmore, max_comm]
    exact ih.insert _

/-- The order of the sort. -/
def precedes (s t : Section) : Bool :=
  t.rank ≤ s.rank

theorem precedes_trans (s t u : Section) (hst : precedes s t) (htu : precedes t u) :
    precedes s u := by
  unfold precedes at *
  rw [decide_eq_true_eq] at *
  exact htu.trans hst

theorem precedes_total (s t : Section) : (precedes s t || precedes t s) = true := by
  unfold precedes
  rw [Bool.or_eq_true, decide_eq_true_eq, decide_eq_true_eq]
  exact le_total _ _

theorem ordered_perm (sections : List Section) : (ordered sections).Perm sections :=
  List.mergeSort_perm _ _

/-- The sections of one rank keep their order. -/
theorem filter_rank_ordered (sections : List Section) (k : Nat) :
    (ordered sections).filter (fun s => s.rank = k) = sections.filter fun s => s.rank = k := by
  have hequal : (sections.filter fun s => s.rank = k).Pairwise fun s t => precedes s t := by
    refine List.pairwise_of_forall_mem_list fun s hs t ht => decide_eq_true ?_
    rw [of_decide_eq_true (List.mem_filter.mp hs).2, of_decide_eq_true (List.mem_filter.mp ht).2]
  -- As none of them precedes another strictly, the sort is stable on them.
  have hstable : (sections.filter fun s => s.rank = k).Sublist (ordered sections) :=
    List.sublist_mergeSort precedes_trans precedes_total hequal List.filter_sublist
  have hkept := hstable.filter fun s => s.rank = k
  rw [List.filter_filter] at hkept
  simp only [Bool.and_self] at hkept
  exact (hkept.eq_of_length ((ordered_perm sections).filter _).length_eq.symm).symm

/-- The sections stand by falling rank, and those of one rank as they stood. -/
theorem pairwise_ordered {R : Section → Section → Prop} (h : sections.Pairwise R) :
    (ordered sections).Pairwise fun s t => t.rank < s.rank ∨ t.rank = s.rank ∧ R s t := by
  have hsorted : (ordered sections).Pairwise fun s t => precedes s t :=
    List.pairwise_mergeSort precedes_trans precedes_total sections
  rw [List.pairwise_iff_forall_sublist] at hsorted h ⊢
  intro s t hst
  rcases (of_decide_eq_true (hsorted hst)).lt_or_eq with hlt | heq
  · exact .inl hlt
  · refine .inr ⟨heq, h ?_⟩
    have hkept := hst.filter fun u => u.rank = s.rank
    rw [filter_rank_ordered, List.filter_cons_of_pos (by simp), List.filter_cons_of_pos
      (by simp [heq]), List.filter_nil] at hkept
    exact hkept.trans List.filter_sublist

/-- How sections arrange findings: there is one section for every column name, with all findings on
the name in their order, and every finding stands in one of them.  The sections stand in order of
their worst severity, equal ones in order of first appearance. -/
structure Arranges (fs : List Finding) (sections : List Section) : Prop where
  nodup_names : (sections.map Section.name).Nodup
  mem_names : ∀ n, n ∈ sections.map Section.name ↔ ∃ f ∈ fs, f.lowered "column" = .ok n
  findings : ∀ s ∈ sections, s.findings = findingsOn s.name fs
  perm : (sections.flatMap Section.findings).Perm fs
  worst : ∀ s ∈ sections, IsGreatest {k | ∃ f ∈ s.findings, f.severity.rank = k} s.rank
  pairwise : sections.Pairwise fun s t => t.rank < s.rank ∨ t.rank = s.rank ∧
    (fs.map Finding.columnName).idxOf s.name < (fs.map Finding.columnName).idxOf t.name

/-- The sections of findings that name a column, once ordered, arrange them. -/
theorem arranges_ordered (h : ∀ f ∈ fs, f.lowered "column" = .ok f.columnName) :
    ∃ sections, sectionsOf fs = .ok sections ∧ Arranges fs (ordered sections) := by
  obtain ⟨sections, hsections, hperm⟩ := exists_sectionsOf fun f hf => ⟨_, h f hf⟩
  have hholds := holds_sectionsOf h hsections
  have hsame := ordered_perm sections
  have hfirst : sections.Pairwise fun s t =>
      (fs.map Finding.columnName).idxOf s.name < (fs.map Finding.columnName).idxOf t.name := by
    have := pairwise_idxOf_distinct (fs.map Finding.columnName)
    rwa [← hholds.names, List.pairwise_map] at this
  refine ⟨sections, hsections, ?_, ?_, ?_, ?_, fun s _ => s.isGreatest_rank,
    pairwise_ordered hfirst⟩
  · rw [(hsame.map _).nodup_iff, hholds.names]
    exact nodup_distinct _
  · intro n
    rw [(hsame.map _).mem_iff, hholds.names, mem_distinct, List.mem_map]
    refine exists_congr fun f => and_congr_right fun hf => ?_
    rw [h f hf, Except.ok.injEq]
  · exact fun s hs => hholds.findings s (hsame.mem_iff.mp hs)
  · exact (hsame.flatMap_right _).trans hperm

/-! ### The text of a section -/

/-- The text of a section: the lines above its rows, and the rows. -/
structure SectionText where
  head : List String
  rows : List String
  deriving Inhabited

namespace SectionText

/-- The lines of the text, with an empty one at the end. -/
def lines (t : SectionText) : List String :=
  t.head ++ t.rows ++ [""]

/-- The rows that say that their finding matches the dominant signature. -/
def matching (t : SectionText) : List String :=
  t.rows.filter Finding.rowMatches

end SectionText

/-- Whether a section is written as the text: with the head of its first finding, and the rows of
its findings one after another. -/
structure Section.IsWritten (s : Section) (t : SectionText) : Prop where
  head : s.first.headLines = .ok t.head
  rows : List.Forall₂ (fun f row => f.row = .ok row) s.findings t.rows

theorem Section.exists_isWritten (h : ∀ f ∈ s.findings, f.IsShowable) :
    ∃ t, s.IsWritten t := by
  obtain ⟨head, hhead⟩ := (h s.first (List.mem_cons_self ..)).exists_headLines
  obtain ⟨rows, hrows⟩ := exists_mapM_eq_ok fun f hf => (h f hf).exists_row
  exact ⟨⟨head, rows⟩, hhead, mapM_eq_ok_iff.mp hrows⟩

/-- The rows that say so are those of the findings that match. -/
theorem length_filter_rowMatches {rows : List String}
    (h : List.Forall₂ (fun f row => f.row = .ok row) fs rows) :
    (rows.filter Finding.rowMatches).length =
      (fs.filter fun f => f.matchesDominant = .ok true).length := by
  rw [← List.countP_eq_length_filter, ← List.countP_eq_length_filter]
  induction h with
  | nil => rfl
  | cons hrow _ ih =>
    rw [List.countP_cons, List.countP_cons, ih, Finding.matchesDominant_of_row hrow]
    simp

/-- A section is made of the lines that its first finding opens and of its rows. -/
theorem Section.lines_eq_bind (s : Section) :
    s.lines = do
      let head ← s.first.headLines
      let rows ← s.findings.mapM Finding.row
      return head ++ rows ++ [""] := by
  unfold lines Finding.headLines
  simp only [bind_assoc, pure_bind]

namespace Section.IsWritten

variable {t : SectionText} (h : s.IsWritten t)
include h

theorem lines_eq : s.lines = .ok t.lines := by
  rw [s.lines_eq_bind, h.head, mapM_eq_ok_iff.mpr h.rows]
  rfl

theorem length_rows : t.rows.length = s.findings.length :=
  h.rows.length_eq.symm

theorem length_matching :
    t.matching.length = (s.findings.filter fun f => f.matchesDominant = .ok true).length :=
  length_filter_rowMatches h.rows

end Section.IsWritten

end Markdown

/-! ### Reports of findings that can be shown -/

/-- A report of findings that can be shown is written section by section. -/
theorem Report.exists_sectionTexts {r : Report} (h : ∀ f ∈ r.findings, f.IsShowable) :
    ∃ sections texts, Markdown.Arranges r.findings sections ∧
      List.Forall₂ Markdown.Section.IsWritten sections texts ∧
      r.toMarkdown = .ok ("\n".intercalate (r.headLines ++
        if r.findings.isEmpty then ["No mismatched columns detected."]
        else texts.flatMap Markdown.SectionText.lines)) := by
  obtain ⟨sections, hsections, harranges⟩ :=
    Markdown.arranges_ordered fun f hf => (h f hf).lowered_column
  have hwritten : ∀ s ∈ Markdown.ordered sections, ∃ t, s.IsWritten t := by
    intro s hs
    refine Markdown.Section.exists_isWritten fun f hf => h f (harranges.perm.subset ?_)
    exact List.mem_flatMap.mpr ⟨s, hs, hf⟩
  choose! text htext using hwritten
  have hall : List.Forall₂ Markdown.Section.IsWritten (Markdown.ordered sections)
      ((Markdown.ordered sections).map text) :=
    List.forall₂_map_right_iff.mpr (List.forall₂_same.mpr htext)
  have hbody : (Markdown.ordered sections).mapM Markdown.Section.lines =
      .ok (((Markdown.ordered sections).map text).map Markdown.SectionText.lines) :=
    mapM_eq_ok_iff.mpr (List.forall₂_map_right_iff.mpr (hall.imp fun _ _ hst => hst.lines_eq))
  refine ⟨_, _, harranges, hall, ?_⟩
  unfold Report.toMarkdown
  rw [hsections]
  split_ifs
  · rfl
  · show Except.bind ((Markdown.ordered sections).mapM Markdown.Section.lines) _ = _
    rw [hbody]
    rfl

/-! ### Reports on tables -/

/-- Whether the evidence tells the statistics of a group. -/
structure Finding.Tells (f : Finding) (g : NameGroup) : Prop where
  definitionCount : f.entry "definition_count" = .ok (.int g.definitionCount)
  totalOccurrences : f.entry "total_occurrences" = .ok (.int g.totalOccurrences)
  dominantSignature : f.entry "dominant_signature" = .ok (.text g.dominantSignature)
  dominantCount : f.entry "dominant_count" = .ok (.int g.dominantCount)

theorem Offense.isShowable_finding (x : Offense) (v : Severity) : (x.finding v).IsShowable :=
  ⟨⟨_, rfl⟩, ⟨_, rfl⟩, ⟨_, rfl⟩, ⟨_, rfl⟩, ⟨_, rfl⟩, ⟨_, rfl⟩, ⟨_, rfl⟩⟩

theorem matchesDominant_finding (x : Offense) (v : Severity) :
    (x.finding v).matchesDominant = .ok (!x.isMinority) := by
  have hmatches : (x.finding v).matchesDominant =
      .ok (lower x.signature = lower x.dominantSignature) := rfl
  rw [hmatches, Offense.isMinority, decide_not, Bool.not_not]

section Analysis

variable {tables : List Table} {s : Settings} {g : NameGroup} {f : Finding} {n : String}

/-- A finding on a contested name tells the statistics of its group. -/
theorem tells_of_mem_findingsOn (hf : f ∈ findingsOn n (mismatchedColumnFindings tables s))
    (hg : (n, g) ∈ contestedGroups (s.occurrences tables)) : f.Tells g := by
  obtain ⟨hmem, hname⟩ := List.mem_filter.mp hf
  obtain ⟨x, hx, rfl⟩ := exists_offense_of_mem hmem
  rw [lowered_column_finding, decide_eq_true_eq, Except.ok.injEq] at hname
  have hon : x ∈ (mismatchedColumns (s.occurrences tables)).filter fun x => lower x.name = n :=
    List.mem_filter.mpr ⟨hx, decide_eq_true hname⟩
  rw [filter_name_mismatchedColumns hg] at hon
  obtain ⟨o, -, rfl⟩ := List.mem_map.mp hon
  exact ⟨rfl, rfl, rfl, rfl⟩

/-- If all is reported, the findings on a contested name are as many as the occurrences, and those
that match as many as the dominant ones. -/
theorem length_findingsOn_of_all (hall : s.minorityOnly = false)
    (hg : (n, g) ∈ contestedGroups (s.occurrences tables)) :
    g.totalOccurrences = (findingsOn n (mismatchedColumnFindings tables s)).length ∧
    g.dominantCount = ((findingsOn n (mismatchedColumnFindings tables s)).filter
      fun f => f.matchesDominant = .ok true).length := by
  have hs : s.reportingAll = s := by
    unfold Settings.reportingAll
    rw [← hall]
  obtain ⟨d, h⟩ := exists_summarizes (mem_contestedGroups.mp hg).1
  have hfindings : findingsOn n (mismatchedColumnFindings tables s.reportingAll) = _ :=
    findingsOn_reportingAll hg
  rw [hs] at hfindings
  rw [hfindings]
  constructor
  · rw [h.totalOccurrences, List.length_map, List.length_map]
  · rw [List.filter_map, List.length_map, ← h.length_filter_not_isMinority]
    simp only [Function.comp_def, matchesDominant_finding, Except.ok.injEq, Bool.decide_eq_true]

/-- The section of a contested name tells of all its findings what it tells of the first one, and
if all is reported it counts them. -/
theorem header_of_arranges {sections : List Markdown.Section} {u : Markdown.Section}
    {t : Markdown.SectionText}
    (harranges : Markdown.Arranges (mismatchedColumnFindings tables s) sections)
    (hu : u ∈ sections) (ht : u.IsWritten t) :
    (∀ f ∈ u.findings, ∀ key ∈ ["definition_count", "total_occurrences", "dominant_signature",
      "dominant_count"], f.entry key = u.first.entry key) ∧
    (s.minorityOnly = false →
      u.first.entry "total_occurrences" = .ok (.int t.rows.length) ∧
      u.first.entry "dominant_count" = .ok (.int t.matching.length)) := by
  have hfindings := harranges.findings u hu
  have hfirst : u.first ∈ u.findings := List.mem_cons_self ..
  -- The name is contested, as there is a finding on it.
  obtain ⟨f, hf, hname⟩ := (harranges.mem_names u.name).mp (List.mem_map_of_mem hu)
  obtain ⟨x, hx, rfl⟩ := exists_offense_of_mem hf
  rw [lowered_column_finding, Except.ok.injEq] at hname
  obtain ⟨⟨n, g⟩, hg, hn⟩ := List.mem_map.mp (mem_contestedGroups_of_mem hx)
  obtain rfl : n = u.name := hn.trans hname
  have htells : ∀ f ∈ u.findings, f.Tells g := fun f hf =>
    tells_of_mem_findingsOn (hfindings ▸ hf) hg
  have htold := htells u.first hfirst
  refine ⟨fun f hf key hkey => ?_, fun hall => ?_⟩
  · have hf := htells f hf
    simp only [List.mem_cons, List.not_mem_nil, or_false] at hkey
    rcases hkey with rfl | rfl | rfl | rfl
    · rw [hf.definitionCount, htold.definitionCount]
    · rw [hf.totalOccurrences, htold.totalOccurrences]
    · rw [hf.dominantSignature, htold.dominantSignature]
    · rw [hf.dominantCount, htold.dominantCount]
  · obtain ⟨htotal, hcount⟩ := length_findingsOn_of_all hall hg
    rw [htold.totalOccurrences, htold.dominantCount, htotal, hcount, ← hfindings,
      ht.length_rows, ht.length_matching]
    exact ⟨rfl, rfl⟩

end Analysis

/-- A report of findings that can be shown has a section for every column name, in order of the
worst severity and then of first appearance, whose rows are those of the findings on the name; so
every finding has one row.  In a report on tables the head of a section is true of all its findings,
and if all is reported there are as many rows, and as many that match the dominant signature, as it
says. -/
theorem toMarkdown_sections :
    (∀ r : Report, (∀ f ∈ r.findings, f.IsShowable) →
      ∃ sections texts, Markdown.Arranges r.findings sections ∧
        List.Forall₂ Markdown.Section.IsWritten sections texts ∧
        r.toMarkdown = .ok ("\n".intercalate (r.headLines ++
          if r.findings.isEmpty then ["No mismatched columns detected."]
          else texts.flatMap Markdown.SectionText.lines))) ∧
    ∀ (tables : List Table) (s : Settings) (warnings : List String),
      let r := analyze tables s warnings
      (∀ f ∈ r.findings, f.IsShowable) ∧
      ∀ sections, Markdown.Arranges r.findings sections →
        ∀ u ∈ sections, ∀ t, u.IsWritten t →
          (∀ f ∈ u.findings, ∀ key ∈ ["definition_count", "total_occurrences",
            "dominant_signature", "dominant_count"], f.entry key = u.first.entry key) ∧
          (s.minorityOnly = false →
            u.first.entry "total_occurrences" = .ok (.int t.rows.length) ∧
            u.first.entry "dominant_count" = .ok (.int t.matching.length)) := by
  refine ⟨fun r => Report.exists_sectionTexts, fun tables s warnings => ?_⟩
  simp only [findings_analyze]
  refine ⟨fun f hf => ?_, fun sections harranges u hu t ht => header_of_arranges harranges hu ht⟩
  obtain ⟨x, -, rfl⟩ := exists_offense_of_mem hf
  exact x.isShowable_finding s.severity

/-- The four findings on `dividedTables` have one section, two of whose rows match. -/
theorem toMarkdown_sections_dividedTables :
    ∃ (u : Markdown.Section) (t : Markdown.SectionText), u.name = "code" ∧ u.IsWritten t ∧
      u.first.entry "total_occurrences" = .ok (.int 4) ∧
      u.first.entry "dominant_count" = .ok (.int 2) ∧
      (analyze dividedTables .standard []).toMarkdown =
        .ok ("\n".intercalate ((analyze dividedTables .standard []).headLines ++ t.lines)) := by
  obtain ⟨hwritten, hanalyzed⟩ := toMarkdown_sections
  obtain ⟨hshowable, hheads⟩ := hanalyzed dividedTables .standard []
  obtain ⟨sections, texts, harranges, htexts, htext⟩ :=
    hwritten (analyze dividedTables .standard []) hshowable
  have hcolumns : (analyze dividedTables .standard []).findings.map (Finding.lowered · "column") =
      List.replicate 4 (.ok "code") := by
    decide +kernel
  have hname : ∀ n, n ∈ sections.map Markdown.Section.name ↔ n ∈ ["code"] := by
    intro n
    rw [harranges.mem_names, ← List.mem_map, hcolumns]
    simp
  have hone : sections.map Markdown.Section.name = ["code"] :=
    List.perm_singleton.mp
      ((List.perm_ext_iff_of_nodup harranges.nodup_names (List.nodup_singleton _)).mpr hname)
  obtain ⟨u, rfl, hu⟩ := List.map_eq_singleton_iff.mp hone
  obtain ⟨t, rest, ht, hrest, rfl⟩ := List.forall₂_cons_left_iff.mp htexts
  obtain rfl := List.forall₂_nil_left_iff.mp hrest
  have hmem := List.mem_singleton_self u
  obtain ⟨-, hcounts⟩ := hheads _ harranges u hmem t ht
  obtain ⟨htotal, hdominant⟩ := hcounts rfl
  have hfindings := harranges.findings u hmem
  rw [hu] at hfindings
  have hrows : t.rows.length = 4 := by
    rw [ht.length_rows, hfindings]
    decide +kernel
  have hmatching : t.matching.length = 2 := by
    rw [ht.length_matching, hfindings]
    decide +kernel
  rw [hrows] at htotal
  rw [hmatching] at hdominant
  refine ⟨u, t, hu, ht, htotal, hdominant, ?_⟩
  have hfound : (analyze dividedTables .standard []).findings.isEmpty = false := by decide +kernel
  rw [htext, hfound, if_neg Bool.false_ne_true, List.flatMap_singleton]

end ColumnLint
