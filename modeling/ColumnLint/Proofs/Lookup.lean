import ColumnLint.Proofs.Offense

/-!
# Looking up by signature

A group does not keep the keys of its buckets.  It looks for a bucket by comparing spellings, and so
finds the bucket that stands under the key of the name and the signature, or none where no typed
occurrence of the name has the signature (`bucketFor?_nameGroups`).  In particular no occurrence of
a contested name is passed over for lack of a bucket.

All of it follows from `NameGroup.Summarizes.bucketFor?_eq_lookup`: the spellings of the buckets of
one name are different but for case, so the first bucket with a signature is the only one.
-/

namespace ColumnLint

open ColumnLint.Text

variable {os : List Occurrence} {n : String} {g : NameGroup} {o : Occurrence}

/-- A typed occurrence has a group, which finds the bucket of its key. -/
theorem exists_bucketFor? (ho : o ∈ os) (htyped : o.isTyped) :
    ∃ g b, (nameGroups os).lookup o.loweredName = some g ∧ (bucketsOf os).lookup o.key = some b ∧
      g.bucketFor? o.signature = some b := by
  obtain ⟨hnamed, g, hg⟩ := exists_ofName?_of_mem ho htyped
  obtain ⟨d, h⟩ := exists_summarizes hg
  have hfound := h.bucketFor?_eq hnamed
  refine ⟨g, Bucket.ofKey os o.key, (lookup_nameGroups os _).trans hg, ?_, hfound⟩
  exact (h.bucketFor?_eq_lookup o.signature).symm.trans hfound

/-- A typed occurrence finds a bucket in its group where the name is contested. -/
theorem bucketFor?_ne_none (ho : o ∈ os) (htyped : o.isTyped)
    (hg : (contestedGroups os).lookup o.loweredName = some g) :
    g.bucketFor? o.signature ≠ none := by
  obtain ⟨hnamed, -⟩ := exists_ofName?_of_mem ho htyped
  rw [lookup_contestedGroups, Option.filter_eq_some_iff] at hg
  obtain ⟨d, h⟩ := exists_summarizes hg.1
  rw [h.bucketFor?_eq hnamed]
  exact Option.some_ne_none _

/-- An occurrence is passed over for want of a type or of a contested group, and for nothing
else. -/
theorem of?_eq_none_iff (ho : o ∈ os) :
    Offense.of? (contestedGroups os) o = none ↔
      ¬ o.isTyped ∨ (contestedGroups os).lookup o.loweredName = none := by
  by_cases htyped : o.isTyped = true
  · cases hg : (contestedGroups os).lookup o.loweredName with
    | none => simp [Offense.of?, htyped, hg]
    | some g => simp [Offense.of?, htyped, hg, bucketFor?_ne_none ho htyped hg]
  · simp [of?_of_not_isTyped _ htyped, htyped]

/-- A group finds no bucket for a signature iff no typed occurrence of its name has it. -/
theorem NameGroup.Summarizes.bucketFor?_eq_none_iff {d : DefinitionKey} (h : g.Summarizes os n d)
    (s : String) : g.bucketFor? s = none ↔
      ∀ o ∈ os, o.isTyped → o.loweredName = n → lower o.signature ≠ lower s := by
  have hkey : ∀ o : Occurrence,
      o.key = ⟨n, lower s⟩ ↔ o.loweredName = n ∧ lower o.signature = lower s := by
    intro o
    exact DefinitionKey.ext_iff
  rw [h.bucketFor?_eq_lookup, lookup_bucketsOf]
  simp [mem_keysOf, mem_occurrencesAt, hkey]

/-- Looking up by signature agrees with the buckets: a typed occurrence finds the bucket of its key,
so none of a contested name is passed over, and a signature that no occurrence has is not found. -/
theorem bucketFor?_nameGroups (os : List Occurrence) :
    (∀ o ∈ os, o.isTyped → ∃ g b, (nameGroups os).lookup o.loweredName = some g ∧
      (bucketsOf os).lookup o.key = some b ∧ g.bucketFor? o.signature = some b) ∧
    (∀ o ∈ os, o.isTyped → ∀ g, (contestedGroups os).lookup o.loweredName = some g →
      g.bucketFor? o.signature ≠ none) ∧
    (∀ o ∈ os, Offense.of? (contestedGroups os) o = none ↔
      ¬ o.isTyped ∨ (contestedGroups os).lookup o.loweredName = none) ∧
    ∀ n g, (n, g) ∈ nameGroups os → ∀ s, g.bucketFor? s = none ↔
      ∀ o ∈ os, o.isTyped → o.loweredName = n → lower o.signature ≠ lower s := by
  refine ⟨?_, ?_, ?_, ?_⟩
  · intro o ho htyped
    exact exists_bucketFor? ho htyped
  · intro o ho htyped g hg
    exact bucketFor?_ne_none ho htyped hg
  · intro o ho
    exact of?_eq_none_iff ho
  · intro n g hg s
    obtain ⟨d, h⟩ := exists_summarizes (mem_nameGroups.mp hg)
    exact h.bucketFor?_eq_none_iff s

/-- A definition in two spellings beside another one, and a type that only another name has. -/
def respelledScan : List Occurrence :=
  [⟨"Orders", "Code", some "VarChar", ["10"], .described .null .null⟩,
    ⟨"Items", "CODE", some "varchar", [" 10 "], .described .null .null⟩,
    ⟨"Stock", "code", some "INT", [], .described .null .null⟩,
    ⟨"Stock", "Id", some "BIGINT", [], .described .null .null⟩]

/-- The later spelling finds the bucket that is spelled as the earlier one, and the type of the
other name is not found. -/
theorem bucketFor?_nameGroups_respelledScan :
    ∃ g b, (nameGroups respelledScan).lookup "code" = some g ∧
      (bucketsOf respelledScan).lookup ⟨"code", "varchar(10)"⟩ = some b ∧
      b.signature = "VarChar(10)" ∧ g.bucketFor? "varchar(10)" = some b ∧
      g.bucketFor? "BIGINT" = none ∧
      ∀ g', (contestedGroups respelledScan).lookup "code" = some g' →
        g'.bucketFor? "varchar(10)" ≠ none := by
  let o : Occurrence := ⟨"Items", "CODE", some "varchar", [" 10 "], .described .null .null⟩
  have ho : o ∈ respelledScan := List.mem_cons_of_mem _ (List.mem_cons_self ..)
  have htyped : o.isTyped := by decide +kernel
  have hname : o.loweredName = "code" := by decide +kernel
  have hsignature : o.signature = "varchar(10)" := by decide +kernel
  have hkey : o.key = ⟨"code", "varchar(10)"⟩ := by decide +kernel
  obtain ⟨hgroups, hcontestedGroups, -, hmissing⟩ := bucketFor?_nameGroups respelledScan
  have hfound := hgroups o ho htyped
  have hcontested := hcontestedGroups o ho htyped
  rw [hname, hsignature] at hfound hcontested
  rw [hkey] at hfound
  obtain ⟨g, b, hg, hb, hgb⟩ := hfound
  have hspelling : ((bucketsOf respelledScan).lookup ⟨"code", "varchar(10)"⟩).map Bucket.signature =
      some "VarChar(10)" := by
    decide +kernel
  rw [hb, Option.map_some, Option.some.injEq] at hspelling
  have hmem : ("code", g) ∈ nameGroups respelledScan := by
    rw [mem_nameGroups, ← lookup_nameGroups]
    exact hg
  refine ⟨g, b, hg, hb, hspelling, hgb, ?_, hcontested⟩
  exact (hmissing "code" g hmem "BIGINT").mpr (by decide +kernel)

end ColumnLint
