import ColumnLint.Proofs.Offense
import ColumnLint.Proofs.Text.Case

/-!
# Verdicts depend only on the keys

Two lists of occurrences whose keys are the same up to order have the same contested names, with
the same statistics, and the same occurrences are reported with the same numbers
(`verdicts_perm`): neither the order of a scan nor the case of names and signatures matters.

An occurrence is typed iff the signature of its key is not empty (`isTyped_iff`), so how many
typed occurrences a key has is read off the keys (`length_occurrencesAt_eq_count`).  The dominant
key is the only one of least rank, which makes it independent of where it first occurs
(`NameGroup.Summarizes.eq_of_perm`).
-/

namespace ColumnLint

open ColumnLint.Text

/-! ### Statistics and verdicts -/

/-- Two groups with the same statistics, however they are spelled. -/
structure NameGroup.SameStatistics (g g' : NameGroup) : Prop where
  definitionCount : g.definitionCount = g'.definitionCount
  totalOccurrences : g.totalOccurrences = g'.totalOccurrences
  dominantCount : g.dominantCount = g'.dominantCount
  dominantSignature : lower g.dominantSignature = lower g'.dominantSignature

/-- Two offenses with the same numbers and the same verdict. -/
structure Offense.SameVerdict (x x' : Offense) : Prop where
  definitionCount : x.definitionCount = x'.definitionCount
  occurrencesOfSignature : x.occurrencesOfSignature = x'.occurrencesOfSignature
  totalOccurrences : x.totalOccurrences = x'.totalOccurrences
  dominantCount : x.dominantCount = x'.dominantCount
  isMinority : x.isMinority = x'.isMinority

/-- Groups with the same statistics are both kept or both not. -/
theorem NameGroup.SameStatistics.isKept_eq {g g' : NameGroup} (h : g.SameStatistics g') :
    g.isKept = g'.isKept := by
  unfold NameGroup.isKept
  rw [h.definitionCount, h.totalOccurrences, h.dominantCount]

/-! ### What the keys tell -/

theorem write_ne_empty {base : String} (h : base ≠ "") (params : List String) :
    Signature.write base params ≠ "" := by
  unfold Signature.write
  split_ifs
  · exact h
  · intro heq
    rw [← String.toList_inj] at heq
    simp at heq

/-- An occurrence is typed iff its signature is not empty. -/
theorem signature_ne_empty_iff (o : Occurrence) : o.signature ≠ "" ↔ o.isTyped := by
  unfold Occurrence.signature Occurrence.signature?
  by_cases h : o.isTyped = true
  · rw [if_pos h]
    cases hb : o.base with
    | none => simp [Occurrence.isTyped, hb] at h
    | some b =>
      have hne : b ≠ "" := by
        rintro rfl
        rw [Occurrence.isTyped, hb] at h
        exact absurd h (by decide)
      simp [h, write_ne_empty hne]
  · simp [h]

/-- An occurrence is typed iff its key has a signature. -/
theorem isTyped_iff (o : Occurrence) : o.isTyped ↔ o.key.signature ≠ "" := by
  rw [← signature_ne_empty_iff]
  exact not_congr (lower_eq_empty_iff o.signature).symm

/-- How many occurrences a key has is read off the keys. -/
theorem length_occurrencesAt_eq_count (os : List Occurrence) (k : DefinitionKey) :
    (occurrencesAt os k).length =
      if k.signature = "" then 0 else (os.map Occurrence.key).count k := by
  rw [← length_filter_key, occurrencesAt]
  split_ifs with hk
  · rw [List.length_eq_zero_iff, List.filter_eq_nil_iff]
    intro o _
    rw [Bool.and_eq_true, isTyped_iff, decide_eq_true_eq]
    rintro ⟨hne, rfl⟩
    exact hne hk
  · congr 1
    refine List.filter_congr fun o _ => ?_
    rw [Bool.eq_iff_iff, Bool.and_eq_true, isTyped_iff, decide_eq_true_eq]
    constructor
    · exact And.right
    · rintro rfl
      exact ⟨hk, rfl⟩

section Perm

variable {os os' : List Occurrence} (h : (os.map Occurrence.key).Perm (os'.map Occurrence.key))
include h

theorem length_occurrencesAt_perm (k : DefinitionKey) :
    (occurrencesAt os k).length = (occurrencesAt os' k).length := by
  rw [length_occurrencesAt_eq_count, length_occurrencesAt_eq_count, h.count_eq]

theorem mem_keysOf_perm (k : DefinitionKey) : k ∈ keysOf os ↔ k ∈ keysOf os' := by
  rw [← occurrencesAt_ne_nil, ← occurrencesAt_ne_nil, ← List.length_pos_iff, ← List.length_pos_iff,
    length_occurrencesAt_perm h]

theorem keysNamed_perm (n : String) : (keysNamed os n).Perm (keysNamed os' n) := by
  rw [List.perm_ext_iff_of_nodup (nodup_keysNamed os n) (nodup_keysNamed os' n)]
  intro k
  rw [mem_keysNamed, mem_keysNamed, mem_keysOf_perm h]

theorem length_occurrencesNamed_perm (n : String) :
    (occurrencesNamed os n).length = (occurrencesNamed os' n).length := by
  rw [← sum_length_occurrencesAt, ← sum_length_occurrencesAt, ((keysNamed_perm h n).map _).sum_eq]
  simp only [length_occurrencesAt_perm h]

theorem definitionRank_perm (k : DefinitionKey) : definitionRank os k = definitionRank os' k := by
  unfold definitionRank
  rw [length_occurrencesAt_perm h]

/-- The dominating key is the same in both lists: it is the only one of least rank. -/
theorem NameGroup.Summarizes.eq_of_perm {n : String} {d d' : DefinitionKey} {g g' : NameGroup}
    (hg : g.Summarizes os n d) (hg' : g'.Summarizes os' n d') : d = d' := by
  have hle : definitionRank os d ≤ definitionRank os d' :=
    hg.rank_le d' ((keysNamed_perm h n).mem_iff.mpr hg'.mem_keys)
  have hge : definitionRank os d' ≤ definitionRank os d := by
    rw [definitionRank_perm h, definitionRank_perm h]
    exact hg'.rank_le d ((keysNamed_perm h n).mem_iff.mp hg.mem_keys)
  have hrank := le_antisymm hle hge
  have hsignature : d.signature = d'.signature := congrArg (fun r => (ofLex r).2) hrank
  exact DefinitionKey.ext
    ((mem_keysNamed.mp hg.mem_keys).2.trans (mem_keysNamed.mp hg'.mem_keys).2.symm) hsignature

/-! ### What the groups and offenses say -/

theorem NameGroup.Summarizes.sameStatistics {n : String} {d d' : DefinitionKey}
    {g g' : NameGroup} (hg : g.Summarizes os n d) (hg' : g'.Summarizes os' n d') :
    g.SameStatistics g' where
  definitionCount := by
    rw [hg.definitionCount, hg'.definitionCount, (keysNamed_perm h n).length_eq]
  totalOccurrences := by
    rw [hg.totalOccurrences, hg'.totalOccurrences, length_occurrencesNamed_perm h]
  dominantCount := by
    rw [hg.dominantCount, hg'.dominantCount, hg.eq_of_perm h hg', length_occurrencesAt_perm h]
  dominantSignature := by
    rw [hg.lower_dominantSignature, hg'.lower_dominantSignature, hg.eq_of_perm h hg']

theorem sameStatistics_of_ofName? {n : String} {g g' : NameGroup}
    (hg : NameGroup.ofName? os n = some g) (hg' : NameGroup.ofName? os' n = some g') :
    g.SameStatistics g' := by
  obtain ⟨d, hd⟩ := exists_summarizes hg
  obtain ⟨d', hd'⟩ := exists_summarizes hg'
  exact hd.sameStatistics h hd'

theorem mem_namesOf_perm (n : String) : n ∈ namesOf os ↔ n ∈ namesOf os' := by
  rw [mem_namesOf, mem_namesOf, ← List.length_pos_iff_exists_mem, ← List.length_pos_iff_exists_mem,
    length_occurrencesNamed_perm h]

/-- A name that is contested in one list is contested in the other. -/
theorem mem_contestedGroups_perm {n : String} (hn : n ∈ (contestedGroups os).map Prod.fst) :
    n ∈ (contestedGroups os').map Prod.fst := by
  obtain ⟨⟨n, g⟩, hmem, rfl⟩ := List.mem_map.mp hn
  obtain ⟨hg, hkept⟩ := mem_contestedGroups.mp hmem
  have hnamed : n ∈ namesOf os := by
    by_contra hnot
    rw [ofName?_of_not_mem hnot] at hg
    exact absurd hg (by simp)
  obtain ⟨g', hg'⟩ := exists_ofName? ((mem_namesOf_perm h n).mp hnamed)
  rw [(sameStatistics_of_ofName? h hg hg').isKept_eq] at hkept
  exact List.mem_map.mpr ⟨(n, g'), mem_contestedGroups.mpr ⟨hg', hkept⟩, rfl⟩

/-- Occurrences of one key are both reported or both not, with the same verdict. -/
theorem sameVerdict_perm {o o' : Occurrence} (ho : o ∈ os) (ho' : o' ∈ os')
    (hkey : o.key = o'.key) : Option.Rel Offense.SameVerdict (Offense.of? (contestedGroups os) o)
      (Offense.of? (contestedGroups os') o') := by
  by_cases htyped : o.isTyped = true
  · have htyped' : o'.isTyped = true := by
      rw [isTyped_iff, ← hkey, ← isTyped_iff]
      exact htyped
    obtain ⟨hnamed, g, hg⟩ := exists_ofName?_of_mem ho htyped
    obtain ⟨hnamed', g', hg'⟩ := exists_ofName?_of_mem ho' htyped'
    have hname : o.loweredName = o'.loweredName := congrArg DefinitionKey.name hkey
    rw [hname] at hg hnamed
    have hsame := sameStatistics_of_ofName? h hg hg'
    rw [of?_contestedGroups hg hnamed, of?_contestedGroups hg' hnamed', hsame.isKept_eq]
    split_ifs
    · refine .some ⟨hsame.definitionCount, ?_, hsame.totalOccurrences, hsame.dominantCount, ?_⟩
      · show ((occurrencesAt os o.key).length : ℤ) = (occurrencesAt os' o'.key).length
        rw [length_occurrencesAt_perm h, hkey]
      · have hsignature : lower o.signature = lower o'.signature :=
          congrArg DefinitionKey.signature hkey
        unfold Offense.isMinority
        show decide (lower o.signature ≠ lower g.dominantSignature) =
          decide (lower o'.signature ≠ lower g'.dominantSignature)
        rw [hsignature, hsame.dominantSignature]
    · exact .none
  · have htyped' : ¬ o'.isTyped = true := by
      rw [isTyped_iff, ← hkey, ← isTyped_iff]
      exact htyped
    rw [of?_of_not_isTyped _ htyped, of?_of_not_isTyped _ htyped']
    exact .none

end Perm

/-- Lists with the same keys up to order have the same contested names with the same statistics,
and report the same occurrences with the same verdicts. -/
theorem verdicts_perm {os os' : List Occurrence}
    (h : (os.map Occurrence.key).Perm (os'.map Occurrence.key)) :
    (∀ n, n ∈ (contestedGroups os).map Prod.fst ↔ n ∈ (contestedGroups os').map Prod.fst) ∧
    (∀ n g g', (n, g) ∈ contestedGroups os → (n, g') ∈ contestedGroups os' →
      g.SameStatistics g') ∧
    mismatchedColumns os = os.filterMap (Offense.of? (contestedGroups os)) ∧
    mismatchedColumns os' = os'.filterMap (Offense.of? (contestedGroups os')) ∧
    ∀ o ∈ os, ∀ o' ∈ os', o.key = o'.key →
      Option.Rel Offense.SameVerdict (Offense.of? (contestedGroups os) o)
        (Offense.of? (contestedGroups os') o') := by
  refine ⟨fun n => ⟨mem_contestedGroups_perm h, mem_contestedGroups_perm h.symm⟩, ?_, rfl, rfl, ?_⟩
  · intro n g g' hg hg'
    exact sameStatistics_of_ofName? h (mem_contestedGroups.mp hg).1 (mem_contestedGroups.mp hg').1
  · intro o ho o' ho' hkey
    exact sameVerdict_perm h ho ho' hkey

/-- A scan with a tie of two definitions and an occurrence without a type. -/
def tiedScan : List Occurrence :=
  [⟨"Orders", "CODE", some "varchar", ["10"], .described .null .null⟩,
    ⟨"Items", "Code", some "INT", [], .described .null .null⟩,
    ⟨"Stock", "code", none, [], .described .null .null⟩]

/-- The same keys scanned backwards and in other cases. -/
def recasedScan : List Occurrence :=
  [⟨"Stock", "CODE", some " ", [], .described .null .null⟩,
    ⟨"Items", "code", some "int", [], .described .null .null⟩,
    ⟨"Orders", "Code", some "VARCHAR", [" 10 "], .described .null .null⟩]

/-- Both scans report the lesser signature of the tie as dominant, each in its own spelling. -/
theorem verdicts_perm_recasedScan :
    (tiedScan.map Occurrence.key).Perm (recasedScan.map Occurrence.key) ∧
    (contestedGroups tiedScan).map (fun p => (p.1, p.2.dominantSignature)) = [("code", "INT")] ∧
    (contestedGroups recasedScan).map (fun p => (p.1, p.2.dominantSignature)) =
      [("code", "int")] ∧
    ∀ o ∈ tiedScan, ∀ o' ∈ recasedScan, o.key = o'.key →
      Option.Rel Offense.SameVerdict (Offense.of? (contestedGroups tiedScan) o)
        (Offense.of? (contestedGroups recasedScan) o') := by
  have hperm : (tiedScan.map Occurrence.key).Perm (recasedScan.map Occurrence.key) := by
    decide +kernel
  exact ⟨hperm, by decide +kernel, by decide +kernel, (verdicts_perm hperm).2.2.2.2⟩

end ColumnLint
