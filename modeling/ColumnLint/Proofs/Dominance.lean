import ColumnLint.Proofs.NameGroup

/-!
# The dominant definition

What a group reports as its dominant signature (`nameGroups_dominance`): no bucket holds more
occurrences, of the buckets with as many the signature is the least without regard to case, and
it is spelled as the first occurrence that has it.  The groups stand in the order in which their
names first occur.
-/

namespace ColumnLint

open ColumnLint.Text

variable {os : List Occurrence} {n : String} {k d : DefinitionKey} {g : NameGroup}

/-- A key that ranks behind another has fewer occurrences, or as many and no lesser signature. -/
theorem definitionRank_le_iff :
    definitionRank os d ≤ definitionRank os k ↔
      (occurrencesAt os k).length < (occurrencesAt os d).length ∨
        (occurrencesAt os d).length = (occurrencesAt os k).length ∧ d.signature ≤ k.signature := by
  unfold definitionRank
  rw [Prod.Lex.toLex_le_toLex]
  simp only [OrderDual.toDual_lt_toDual, OrderDual.toDual_inj]

/-- Every name of a typed occurrence has a group. -/
theorem exists_ofName? (h : n ∈ namesOf os) : ∃ g, NameGroup.ofName? os n = some g := by
  obtain ⟨o, ho⟩ := mem_namesOf.mp h
  have hkey := key_mem_keysNamed ho
  unfold NameGroup.ofName?
  cases hks : keysNamed os n with
  | nil =>
    rw [hks] at hkey
    exact absurd hkey (by simp)
  | cons k ks => exact ⟨_, rfl⟩

/-- The names of the groups are the names of the typed occurrences. -/
theorem map_fst_nameGroups (os : List Occurrence) :
    (nameGroups os).map Prod.fst = namesOf os := by
  have hfst : ∀ n ∈ namesOf os,
      ((NameGroup.ofName? os n).map (Prod.mk n)).map Prod.fst = some n := by
    intro n hn
    obtain ⟨g, hg⟩ := exists_ofName? hn
    rw [hg]
    rfl
  rw [nameGroups_eq, List.map_filterMap, List.filterMap_congr hfst, List.filterMap_some]

namespace NameGroup.Summarizes

variable (h : g.Summarizes os n d)
include h

/-- The dominant signature, without regard to case, is the one of the dominating key. -/
theorem lower_dominantSignature : lower g.dominantSignature = d.signature := by
  rw [h.dominantSignature]
  exact lower_signature_ofKey (mem_keysNamed.mp h.mem_keys).1

/-- The dominating key is told by the name and the dominant signature. -/
theorem key_eq : (⟨n, lower g.dominantSignature⟩ : DefinitionKey) = d := by
  rw [h.lower_dominantSignature, ← (mem_keysNamed.mp h.mem_keys).2]

/-- No bucket holds more occurrences than the dominant one. -/
theorem count_le {b : Bucket} (hb : b ∈ g.buckets) : (b.count : ℤ) ≤ g.dominantCount := by
  rw [h.buckets, List.mem_map] at hb
  obtain ⟨k, hk, rfl⟩ := hb
  rw [h.dominantCount]
  show ((occurrencesAt os k).length : ℤ) ≤ _
  rcases definitionRank_le_iff.mp (h.rank_le k hk) with hlt | ⟨heq, _⟩ <;> omega

/-- Of the signatures with the most occurrences the dominant one is the least. -/
theorem isLeast_dominantSignature :
    IsLeast {s | ∃ b ∈ g.buckets, (b.count : ℤ) = g.dominantCount ∧ lower b.signature = s}
      (lower g.dominantSignature) := by
  have hlower := h.lower_dominantSignature
  constructor
  · refine ⟨Bucket.ofKey os d, ?_, ?_, ?_⟩
    · rw [h.buckets]
      exact List.mem_map_of_mem h.mem_keys
    · rw [h.dominantCount]
      rfl
    · rw [h.dominantSignature]
  · rintro s ⟨b, hb, hcount, rfl⟩
    rw [h.buckets, List.mem_map] at hb
    obtain ⟨k, hk, rfl⟩ := hb
    rw [hlower, lower_signature_ofKey (mem_keysNamed.mp hk).1]
    have hlength : (occurrencesAt os k).length = (occurrencesAt os d).length := by
      rw [h.dominantCount] at hcount
      exact Int.ofNat_inj.mp hcount
    rcases definitionRank_le_iff.mp (h.rank_le k hk) with hlt | ⟨_, hle⟩
    · omega
    · exact hle

/-- The dominant signature is spelled as by the first occurrence of its key. -/
theorem find?_signature :
    (os.find? fun o => o.isTyped && o.key = ⟨n, lower g.dominantSignature⟩).map
      Occurrence.signature = some g.dominantSignature := by
  rw [h.key_eq, ← List.head?_filter, h.dominantSignature]
  exact spelling_ofKey (mem_keysNamed.mp h.mem_keys).1

/-- The group is named as its first occurrence is. -/
theorem find?_name :
    (os.find? fun o => o.isTyped && o.loweredName = n).map Occurrence.name = some g.name := by
  rw [← List.head?_filter]
  exact h.name

/-- The buckets hold all occurrences of the name. -/
theorem totalOccurrences_eq_sum : g.totalOccurrences = (g.buckets.map Bucket.count).sum := by
  rw [h.totalOccurrences, h.buckets, List.map_map, ← sum_length_occurrencesAt]
  rfl

end NameGroup.Summarizes

/-- The dominant signature of a group, the spelling of the group, and the order of the groups. -/
theorem nameGroups_dominance (os : List Occurrence) :
    (∀ n g, (n, g) ∈ nameGroups os →
      g.buckets = ((bucketsOf os).filter fun b => b.1.name = n).map Prod.snd ∧
      (∀ b ∈ g.buckets, (b.count : ℤ) ≤ g.dominantCount) ∧
      IsLeast {s | ∃ b ∈ g.buckets, (b.count : ℤ) = g.dominantCount ∧ lower b.signature = s}
        (lower g.dominantSignature) ∧
      (os.find? fun o => o.isTyped && o.key = ⟨n, lower g.dominantSignature⟩).map
        Occurrence.signature = some g.dominantSignature ∧
      (os.find? fun o => o.isTyped && o.loweredName = n).map Occurrence.name = some g.name ∧
      g.totalOccurrences = (g.buckets.map Bucket.count).sum) ∧
    (∀ n, n ∈ (nameGroups os).map Prod.fst ↔ ∃ o ∈ os, o.isTyped ∧ o.loweredName = n) ∧
    ((nameGroups os).map Prod.fst).Pairwise fun m n =>
      ((os.filter Occurrence.isTyped).map Occurrence.loweredName).idxOf m <
        ((os.filter Occurrence.isTyped).map Occurrence.loweredName).idxOf n := by
  refine ⟨?_, ?_, ?_⟩
  · intro n g hg
    obtain ⟨d, h⟩ := exists_summarizes (mem_nameGroups.mp hg)
    have hbuckets := h.buckets.trans (map_snd_filter_bucketsOf os n).symm
    exact ⟨hbuckets, fun b hb => h.count_le hb, h.isLeast_dominantSignature,
      h.find?_signature, h.find?_name, h.totalOccurrences_eq_sum⟩
  · intro n
    simp only [map_fst_nameGroups, mem_namesOf, mem_occurrencesNamed]
  · rw [map_fst_nameGroups]
    exact pairwise_idxOf_distinct _

/-- Three spellings of one name with a type each, and one without a type. -/
def threefoldTie : List Occurrence :=
  [⟨"Orders", "Code", none, [], .described .null .null⟩,
    ⟨"Orders", "CODE", some "varchar", ["10"], .described .null .null⟩,
    ⟨"Items", "Code", some "INT", [], .described .null .null⟩,
    ⟨"Stock", "code", some "Bit", [], .described .null .null⟩]

/-- Of three signatures with one occurrence each the least dominates, whatever its case. -/
theorem nameGroups_dominance_threefoldTie :
    ∃ g, ("code", g) ∈ nameGroups threefoldTie ∧
      g.dominantSignature = "Bit" ∧ g.name = "CODE" ∧
      (∀ b ∈ g.buckets, (b.count : ℤ) ≤ g.dominantCount) ∧
      IsLeast {s | ∃ b ∈ g.buckets, (b.count : ℤ) = g.dominantCount ∧ lower b.signature = s}
        "bit" := by
  have hgroups : (nameGroups threefoldTie).map (fun p => (p.1, p.2.dominantSignature, p.2.name)) =
      [("code", "Bit", "CODE")] := by
    decide +kernel
  obtain ⟨⟨n, g⟩, hmem, heq⟩ : ∃ p ∈ nameGroups threefoldTie,
      (p.1, p.2.dominantSignature, p.2.name) = ("code", "Bit", "CODE") := by
    rw [← List.mem_map, hgroups]
    exact List.mem_singleton_self _
  obtain ⟨rfl, hsignature, hname⟩ : n = "code" ∧ g.dominantSignature = "Bit" ∧ g.name = "CODE" := by
    simpa using heq
  obtain ⟨_, hcount, hleast, _⟩ := (nameGroups_dominance threefoldTie).1 "code" g hmem
  have hlower : lower g.dominantSignature = "bit" := by
    rw [hsignature]
    decide +kernel
  rw [hlower] at hleast
  exact ⟨g, hmem, hsignature, hname, hcount, hleast⟩

end ColumnLint
