import ColumnLint.Proofs.Rearrangement

/-!
# Verdicts do not look at origins

The report on a list of occurrences says where each comes from, but nothing else in it depends on
that: after the occurrences are given other origins, the report is the same with the other origins
in it (`mismatchedColumns_withOrigin`).

An occurrence keeps its key when it gets another origin, so the statistics of the names stay as
they are (`sameStatistics_of_ofName?`).  That the dominant signature also keeps its spelling is a
fact about the first occurrence of the dominating key (`signature_ofKey_withOrigin`).
-/

namespace ColumnLint

open ColumnLint.Text

variable (f : Origin → Origin) (os : List Occurrence) {o : Occurrence}

/-- The occurrence with another origin. -/
def Occurrence.withOrigin (o : Occurrence) : Occurrence :=
  { o with origin := f o.origin }

/-- The offense with another origin. -/
def Offense.withOrigin (x : Offense) : Offense :=
  { x with origin := f x.origin }

namespace Occurrence

@[simp] theorem isTyped_withOrigin : (o.withOrigin f).isTyped = o.isTyped := rfl

@[simp] theorem key_withOrigin : (o.withOrigin f).key = o.key := rfl

end Occurrence

/-- The keys stay as they are. -/
theorem perm_key_withOrigin :
    (os.map Occurrence.key).Perm ((os.map (Occurrence.withOrigin f)).map Occurrence.key) := by
  rw [List.map_map]
  exact .refl _

theorem occurrencesAt_withOrigin (k : DefinitionKey) :
    occurrencesAt (os.map (Occurrence.withOrigin f)) k =
      (occurrencesAt os k).map (Occurrence.withOrigin f) := by
  unfold occurrencesAt
  rw [List.filter_map]
  rfl

/-- A bucket is spelled the same whatever the origins. -/
theorem signature_ofKey_withOrigin (k : DefinitionKey) :
    (Bucket.ofKey (os.map (Occurrence.withOrigin f)) k).signature =
      (Bucket.ofKey os k).signature := by
  unfold Bucket.ofKey
  rw [occurrencesAt_withOrigin, List.head?_map, Option.map_map]
  rfl

/-- The groups of a name differ in the origins only, so they make the same offense of an
occurrence. -/
theorem ofGroup_withOrigin {n : String} {g g' : NameGroup}
    (hg : NameGroup.ofName? os n = some g)
    (hg' : NameGroup.ofName? (os.map (Occurrence.withOrigin f)) n = some g') :
    Offense.ofGroup g' (Bucket.ofKey (os.map (Occurrence.withOrigin f)) o.key) (o.withOrigin f) =
      (Offense.ofGroup g (Bucket.ofKey os o.key) o).withOrigin f := by
  have hkeys := perm_key_withOrigin f os
  obtain ⟨d, hd⟩ := exists_summarizes hg
  obtain ⟨d', hd'⟩ := exists_summarizes hg'
  have hsame := hd.sameStatistics hkeys hd'
  -- Equal statistics fix the dominant signature only up to case; its spelling is the first one's.
  have hsignature : g'.dominantSignature = g.dominantSignature := by
    rw [hd'.dominantSignature, hd.dominantSignature, ← hd.eq_of_perm hkeys hd',
      signature_ofKey_withOrigin]
  have hcount : (Bucket.ofKey (os.map (Occurrence.withOrigin f)) o.key).count =
      (Bucket.ofKey os o.key).count := (length_occurrencesAt_perm hkeys o.key).symm
  unfold Offense.ofGroup Offense.withOrigin
  rw [hcount, hsignature, hsame.definitionCount, hsame.totalOccurrences, hsame.dominantCount]
  rfl

/-- An occurrence gets the same offense, but for the origin. -/
theorem of?_withOrigin (ho : o ∈ os) :
    Offense.of? (contestedGroups (os.map (Occurrence.withOrigin f))) (o.withOrigin f) =
      (Offense.of? (contestedGroups os) o).map (Offense.withOrigin f) := by
  by_cases htyped : o.isTyped = true
  · obtain ⟨hnamed, g, hg⟩ := exists_ofName?_of_mem ho htyped
    obtain ⟨hnamed', g', hg'⟩ :=
      exists_ofName?_of_mem (List.mem_map_of_mem (f := Occurrence.withOrigin f) ho) htyped
    have hsame := sameStatistics_of_ofName? (perm_key_withOrigin f os) hg hg'
    rw [of?_contestedGroups hg hnamed, of?_contestedGroups hg' hnamed', hsame.isKept_eq]
    split_ifs
    · rw [Option.map_some, Occurrence.key_withOrigin, ofGroup_withOrigin f os hg hg']
    · rfl
  · have htyped' : ¬ (o.withOrigin f).isTyped = true := by
      rwa [Occurrence.isTyped_withOrigin]
    rw [of?_of_not_isTyped _ htyped, of?_of_not_isTyped _ htyped']
    rfl

/-- Occurrences of other origins have the same report, but for the origins. -/
theorem mismatchedColumns_withOrigin :
    mismatchedColumns (os.map (Occurrence.withOrigin f)) =
      (mismatchedColumns os).map (Offense.withOrigin f) := by
  unfold mismatchedColumns Offense.select
  rw [List.filterMap_map, List.map_filterMap]
  exact List.filterMap_congr fun o ho => of?_withOrigin f os ho

end ColumnLint
