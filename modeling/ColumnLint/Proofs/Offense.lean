import ColumnLint.Offense
import ColumnLint.Proofs.Dominance

/-!
# Which columns are reported, and with what numbers

The report on mismatched columns holds the occurrences that conflict with another one
(`Occurrence.Conflicts`), each with the true counts of its name (`mismatchedColumns_reports`).

A group is contested iff its name has two keys (`NameGroup.Summarizes.contested_iff`): if the
dominant key does not account for all occurrences, one of the others has another key, and two keys
make two definitions.  An occurrence of a contested group always finds its bucket
(`NameGroup.Summarizes.bucketFor?_eq`), so nothing is lost on the way.
-/

namespace ColumnLint

open ColumnLint.Text

variable {os : List Occurrence} {n : String} {d : DefinitionKey} {o : Occurrence} {g : NameGroup}

/-! ### Contested groups -/

/-- Whether a group is kept among the contested ones. -/
def NameGroup.isKept (g : NameGroup) : Bool :=
  g.definitionCount ≠ 1 && g.dominantCount ≠ g.totalOccurrences

theorem lookup_contestedGroups (os : List Occurrence) (n : String) :
    (contestedGroups os).lookup n = (NameGroup.ofName? os n).filter NameGroup.isKept := by
  have hfilter : ∀ n, ((NameGroup.ofName? os n).map (Prod.mk n)).filter (fun p => p.2.isKept) =
      ((NameGroup.ofName? os n).filter NameGroup.isKept).map (Prod.mk n) := by
    intro n
    cases NameGroup.ofName? os n with
    | none => rfl
    | some g =>
      rw [Option.map_some, Option.filter_some, Option.filter_some]
      split_ifs <;> rfl
  show ((nameGroups os).filter fun p => p.2.isKept).lookup n = _
  rw [nameGroups_eq, List.filter_filterMap]
  simp only [hfilter]
  rw [lookup_filterMap]
  split_ifs with h
  · rfl
  · rw [ofName?_of_not_mem h]
    rfl

theorem mem_contestedGroups :
    (n, g) ∈ contestedGroups os ↔ NameGroup.ofName? os n = some g ∧ g.isKept := by
  show (n, g) ∈ (nameGroups os).filter (fun p => p.2.isKept) ↔ _
  rw [List.mem_filter, mem_nameGroups]

/-- The occurrences of a key are all of its name iff the name has no other key. -/
theorem length_occurrencesAt_lt_iff (os : List Occurrence) (k : DefinitionKey) :
    (occurrencesAt os k).length < (occurrencesNamed os k.name).length ↔
      ∃ o ∈ occurrencesNamed os k.name, o.key ≠ k := by
  rw [occurrencesAt_eq_filter, List.length_filter_lt_length_iff_exists]
  simp

namespace NameGroup.Summarizes

variable (h : g.Summarizes os n d)
include h

/-- A group has several definitions iff its name has a key besides the dominating one. -/
theorem definitionCount_ne_one_iff :
    g.definitionCount ≠ 1 ↔ ∃ p ∈ occurrencesNamed os n, p.key ≠ d := by
  rw [h.definitionCount]
  constructor
  · intro hne
    by_contra! hnone
    -- The dominating key would be the only one, and it stands among the keys once.
    have hall : ∀ k ∈ keysNamed os n, k = d := by
      intro k hk
      obtain ⟨p, hp, rfl⟩ := mem_keysNamed_iff_exists.mp hk
      exact hnone p hp
    have hnodup := nodup_keysNamed os n
    rw [List.eq_replicate_of_mem hall, List.nodup_replicate] at hnodup
    have hpos := List.length_pos_of_mem h.mem_keys
    omega
  · rintro ⟨p, hp, hne⟩ hone
    obtain ⟨k, hk⟩ := List.length_eq_one_iff.mp (by omega : (keysNamed os n).length = 1)
    have hpkey := key_mem_keysNamed hp
    have hd := h.mem_keys
    rw [hk, List.mem_singleton] at hpkey hd
    exact hne (hpkey.trans hd.symm)

/-- The dominant count falls short of all occurrences iff the name has a key besides the dominating
one. -/
theorem dominantCount_ne_iff :
    g.dominantCount ≠ g.totalOccurrences ↔ ∃ p ∈ occurrencesNamed os n, p.key ≠ d := by
  have hname : d.name = n := (mem_keysNamed.mp h.mem_keys).2
  have hlt := length_occurrencesAt_lt_iff os d
  rw [hname] at hlt
  have hle : (occurrencesAt os d).length ≤ (occurrencesNamed os n).length := by
    rw [occurrencesAt_eq_filter, hname]
    exact List.length_filter_le _ _
  rw [h.dominantCount, h.totalOccurrences, ← hlt]
  omega

/-- A group is kept iff its name has a key besides the dominating one. -/
theorem isKept_iff : g.isKept ↔ ∃ p ∈ occurrencesNamed os n, p.key ≠ d := by
  have hsplit : g.isKept ↔ g.definitionCount ≠ 1 ∧ g.dominantCount ≠ g.totalOccurrences := by
    simp [isKept]
  rw [hsplit, h.definitionCount_ne_one_iff, h.dominantCount_ne_iff, and_self_iff]

/-- A group is kept iff some occurrence of its name differs from a given one. -/
theorem contested_iff (ho : o ∈ occurrencesNamed os n) :
    g.isKept ↔ ∃ p ∈ occurrencesNamed os n, p.key ≠ o.key := by
  rw [h.isKept_iff]
  constructor
  · intro hother
    by_cases hod : o.key = d
    · rw [hod]
      exact hother
    · -- The occurrence is not dominant, so a dominant one differs from it.
      obtain ⟨p, hp, rfl⟩ := mem_keysNamed_iff_exists.mp h.mem_keys
      exact ⟨p, hp, Ne.symm hod⟩
  · rintro ⟨p, hp, hne⟩
    by_cases hod : o.key = d
    · exact ⟨p, hp, hod ▸ hne⟩
    · exact ⟨o, ho, hod⟩

/-- Looking up a signature in a group is looking up its key, however the buckets are spelled. -/
theorem bucketFor?_eq_lookup (s : String) :
    g.bucketFor? s = (bucketsOf os).lookup ⟨n, lower s⟩ := by
  have hsame : ∀ k ∈ keysNamed os n,
      ((fun b => decide (lower b.signature = lower s)) ∘ Bucket.ofKey os) k = true ↔
        k = ⟨n, lower s⟩ := by
    intro k hk
    obtain ⟨hkey, rfl⟩ := mem_keysNamed.mp hk
    rw [Function.comp_apply, decide_eq_true_eq, lower_signature_ofKey hkey]
    exact ⟨fun hs => DefinitionKey.ext rfl hs, congrArg DefinitionKey.signature⟩
  have hmem : (⟨n, lower s⟩ : DefinitionKey) ∈ keysNamed os n ↔ ⟨n, lower s⟩ ∈ keysOf os := by
    simp [mem_keysNamed]
  unfold bucketFor?
  rw [h.buckets, List.find?_map, find?_eq_ite hsame, lookup_bucketsOf]
  simp only [hmem]
  split_ifs <;> rfl

/-- An occurrence finds the bucket of its key. -/
theorem bucketFor?_eq (ho : o ∈ occurrencesNamed os n) :
    g.bucketFor? o.signature = some (Bucket.ofKey os o.key) := by
  obtain ⟨hkey, hname⟩ := mem_keysNamed.mp (key_mem_keysNamed ho)
  have heq : (⟨n, lower o.signature⟩ : DefinitionKey) = o.key := DefinitionKey.ext hname.symm rfl
  rw [h.bucketFor?_eq_lookup, heq, lookup_bucketsOf, if_pos hkey]

end NameGroup.Summarizes

/-! ### The report -/

/-- Whether the list holds a typed occurrence of the same name and another signature, both without
regard to case. -/
def Occurrence.Conflicts (os : List Occurrence) (o : Occurrence) : Prop :=
  o.isTyped ∧ ∃ p ∈ os, p.isTyped ∧ p.loweredName = o.loweredName ∧
    lower p.signature ≠ lower o.signature

instance (os : List Occurrence) (o : Occurrence) : Decidable (o.Conflicts os) := by
  unfold Occurrence.Conflicts
  infer_instance

/-- What an offense says of an occurrence: the occurrence as it is, and the counts of its name. -/
structure Offense.Reports (x : Offense) (os : List Occurrence) (o : Occurrence) : Prop where
  origin : x.origin = o.origin
  table : x.table = o.table
  name : x.name = o.name
  signature : o.signature? = some x.signature
  totalOccurrences : x.totalOccurrences = (loweredSignatures os o.loweredName).length
  definitionCount : x.definitionCount = (loweredSignatures os o.loweredName).toFinset.card
  occurrencesOfSignature :
    x.occurrencesOfSignature = (loweredSignatures os o.loweredName).count (lower o.signature)
  dominantCount :
    IsGreatest {c : ℤ | ∃ s ∈ loweredSignatures os o.loweredName,
      c = (loweredSignatures os o.loweredName).count s} x.dominantCount

/-- The count of the dominating key is the greatest count of a signature. -/
theorem NameGroup.Summarizes.isGreatest_dominantCount (h : g.Summarizes os n d) :
    IsGreatest {c : ℤ | ∃ s ∈ loweredSignatures os n, c = (loweredSignatures os n).count s}
      g.dominantCount := by
  have hd : (⟨n, d.signature⟩ : DefinitionKey) = d :=
    DefinitionKey.ext (mem_keysNamed.mp h.mem_keys).2.symm rfl
  constructor
  · refine ⟨d.signature, mem_loweredSignatures.mpr (hd ▸ h.mem_keys), ?_⟩
    rw [count_loweredSignatures, hd, h.dominantCount]
  · rintro c ⟨s, hs, rfl⟩
    rw [count_loweredSignatures, h.dominantCount]
    rcases definitionRank_le_iff.mp (h.rank_le _ (mem_loweredSignatures.mp hs)) with hlt | ⟨heq, _⟩
      <;> omega

theorem signature?_of_isTyped (h : o.isTyped) : o.signature? = some o.signature := by
  unfold Occurrence.signature Occurrence.signature?
  rw [if_pos h]
  cases hb : o.base with
  | none => simp [Occurrence.isTyped, hb] at h
  | some b => rfl

/-- A typed occurrence conflicts iff an occurrence of its name has another key. -/
theorem Occurrence.conflicts_iff (h : o.isTyped) :
    o.Conflicts os ↔ ∃ p ∈ occurrencesNamed os o.loweredName, p.key ≠ o.key := by
  unfold Occurrence.Conflicts
  simp only [h, true_and, mem_occurrencesNamed, and_assoc]
  refine exists_congr fun p => and_congr_right fun _ => and_congr_right fun _ =>
    and_congr_right fun hname => ?_
  rw [not_iff_not]
  exact @signature_eq_iff p.key o hname

/-- The offense of an occurrence that has a bucket in a group. -/
def Offense.ofGroup (g : NameGroup) (b : Bucket) (o : Occurrence) : Offense where
  origin := o.origin
  table := o.table
  name := o.name
  signature := o.signature
  definitionCount := g.definitionCount
  occurrencesOfSignature := b.count
  totalOccurrences := g.totalOccurrences
  dominantCount := g.dominantCount
  dominantSignature := g.dominantSignature

/-- An occurrence without a type has no offense. -/
theorem of?_of_not_isTyped (groups : NameGroups) (h : ¬ o.isTyped) :
    Offense.of? groups o = none := by
  unfold Offense.of?
  simp [h]

/-- A typed occurrence has an offense iff its group is kept. -/
theorem of?_contestedGroups (hg : NameGroup.ofName? os n = some g)
    (ho : o ∈ occurrencesNamed os n) :
    Offense.of? (contestedGroups os) o =
      if g.isKept then some (Offense.ofGroup g (Bucket.ofKey os o.key) o) else none := by
  obtain ⟨d, h⟩ := exists_summarizes hg
  obtain ⟨-, htyped, rfl⟩ := mem_occurrencesNamed.mp ho
  unfold Offense.of?
  rw [htyped, lookup_contestedGroups, hg, Option.filter_some]
  simp only [Bool.not_true, Bool.false_eq_true, if_false]
  split_ifs with hk
  · simp only [h.bucketFor?_eq ho, Option.map_some]
    rfl
  · rfl

/-- A typed occurrence of the list has a group. -/
theorem exists_ofName?_of_mem (ho : o ∈ os) (htyped : o.isTyped) :
    o ∈ occurrencesNamed os o.loweredName ∧ ∃ g, NameGroup.ofName? os o.loweredName = some g := by
  have hnamed := mem_occurrencesNamed.mpr ⟨ho, htyped, rfl⟩
  exact ⟨hnamed, exists_ofName? (mem_namesOf.mpr ⟨o, hnamed⟩)⟩

/-- What the offense of an occurrence says is true of the list. -/
theorem reports_ofGroup (ho : o ∈ occurrencesNamed os o.loweredName)
    (h : g.Summarizes os o.loweredName d) :
    (Offense.ofGroup g (Bucket.ofKey os o.key) o).Reports os o where
  origin := rfl
  table := rfl
  name := rfl
  signature := signature?_of_isTyped (mem_occurrencesNamed.mp ho).2.1
  totalOccurrences := by
    rw [loweredSignatures, List.length_map]
    exact h.totalOccurrences
  definitionCount := by
    rw [← length_keysNamed]
    exact h.definitionCount
  occurrencesOfSignature := by
    rw [count_loweredSignatures]
    rfl
  dominantCount := h.isGreatest_dominantCount

/-- An occurrence that conflicts has an offense with the counts of its name, and no other one has
an offense. -/
theorem of?_reports (ho : o ∈ os) :
    if o.Conflicts os then
      ∃ x, Offense.of? (contestedGroups os) o = some x ∧ x.Reports os o
    else Offense.of? (contestedGroups os) o = none := by
  by_cases htyped : o.isTyped = true
  · obtain ⟨hnamed, g, hg⟩ := exists_ofName?_of_mem ho htyped
    obtain ⟨d, h⟩ := exists_summarizes hg
    have hkept := (Occurrence.conflicts_iff htyped).trans (h.contested_iff hnamed).symm
    rw [of?_contestedGroups hg hnamed]
    simp only [hkept]
    split_ifs
    · exact ⟨_, rfl, reports_ofGroup hnamed h⟩
    · rfl
  · rw [if_neg fun h => htyped h.1]
    exact of?_of_not_isTyped _ htyped

/-- What the offenses take over from their occurrences is read off the occurrences that conflict. -/
theorem map_mismatchedColumns {β : Type*} {f : Offense → β} {g : Occurrence → β}
    (h : ∀ (o : Occurrence) (x : Offense), x.Reports os o → f x = g o) :
    (mismatchedColumns os).map f = (os.filter fun o => o.Conflicts os).map g := by
  unfold mismatchedColumns Offense.select
  rw [List.map_filterMap, ← List.filterMap_eq_map, List.filterMap_filter]
  refine List.filterMap_congr fun o ho => ?_
  have hoffense := of?_reports ho
  simp only [decide_eq_true_eq, Function.comp_apply]
  split_ifs at hoffense ⊢
  · obtain ⟨x, hx, hreports⟩ := hoffense
    rw [hx, Option.map_some, h o x hreports]
  · rw [hoffense, Option.map_none]

/-- Reported are the occurrences that conflict, in order, each with the counts of its name. -/
theorem mismatchedColumns_reports (os : List Occurrence) :
    List.Forall₂ (fun o (x : Offense) => x.Reports os o) (os.filter fun o => o.Conflicts os)
      (mismatchedColumns os) := by
  refine forall₂_filter_filterMap fun o ho => ?_
  simp only [decide_eq_true_eq]
  exact of?_reports ho

end ColumnLint
