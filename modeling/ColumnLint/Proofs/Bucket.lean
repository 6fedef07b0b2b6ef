import ColumnLint.Proofs.Distinct

/-!
# What the buckets hold

The buckets of a list of occurrences stand under the distinct keys of the typed ones, and each
holds the occurrences of its key, spelled as the first of them (`bucketsOf_eq`).  The fold adds
one occurrence at a time, so the proof compares the two sides as one occurrence is added at the
end: an occurrence without a type changes no bucket, one of a known key joins the bucket of that
key, and any other opens a bucket.
-/

namespace ColumnLint

open ColumnLint.Text

attribute [ext] DefinitionKey

/-- The typed occurrences with a key. -/
def occurrencesAt (os : List Occurrence) (k : DefinitionKey) : List Occurrence :=
  os.filter fun o => o.isTyped && o.key = k

/-- The bucket of a key: its occurrences, spelled as the first of them. -/
def Bucket.ofKey (os : List Occurrence) (k : DefinitionKey) : Bucket where
  signature := ((occurrencesAt os k).head?.map Occurrence.signature).getD ""
  occurrences := occurrencesAt os k

/-- Of keys with one name the signatures tell which is an occurrence's. -/
theorem signature_eq_iff {k : DefinitionKey} {o : Occurrence} (h : k.name = o.loweredName) :
    k.signature = lower o.signature ↔ k = o.key := by
  constructor
  · intro hs
    exact DefinitionKey.ext h hs
  · rintro rfl
    rfl

theorem mem_occurrencesAt {os : List Occurrence} {k : DefinitionKey} {o : Occurrence} :
    o ∈ occurrencesAt os k ↔ o ∈ os ∧ o.isTyped ∧ o.key = k := by
  simp [occurrencesAt]

/-- The occurrences with a key are as many as its places among the keys. -/
theorem length_filter_key (os : List Occurrence) (k : DefinitionKey) :
    (os.filter fun o => o.key = k).length = (os.map Occurrence.key).count k := by
  rw [List.count, List.countP_map, List.countP_eq_length_filter]
  rfl

/-! ### One more occurrence -/

/-- A typed occurrence at the end comes last among those of its key. -/
theorem occurrencesAt_concat_self (os : List Occurrence) {o : Occurrence} (ho : o.isTyped) :
    occurrencesAt (os ++ [o]) o.key = occurrencesAt os o.key ++ [o] := by
  simp [occurrencesAt, ho]

/-- An occurrence of another key or without a type is not met. -/
theorem occurrencesAt_concat_of_not (os : List Occurrence) {o : Occurrence} {k : DefinitionKey}
    (h : ¬ (o.isTyped ∧ o.key = k)) : occurrencesAt (os ++ [o]) k = occurrencesAt os k := by
  simp [occurrencesAt, h]

theorem ofKey_concat_of_not (os : List Occurrence) {o : Occurrence} {k : DefinitionKey}
    (h : ¬ (o.isTyped ∧ o.key = k)) : Bucket.ofKey (os ++ [o]) k = Bucket.ofKey os k := by
  unfold Bucket.ofKey
  rw [occurrencesAt_concat_of_not os h]

/-- An occurrence of a known key joins the bucket, which keeps its spelling. -/
theorem ofKey_concat_of_mem (os : List Occurrence) {o : Occurrence} (ho : o.isTyped)
    (h : occurrencesAt os o.key ≠ []) :
    Bucket.ofKey (os ++ [o]) o.key =
      { Bucket.ofKey os o.key with
        occurrences := (Bucket.ofKey os o.key).occurrences ++ [o] } := by
  unfold Bucket.ofKey
  rw [occurrencesAt_concat_self os ho, List.head?_append_of_ne_nil _ h]

/-- An occurrence of an unknown key opens a bucket and spells it. -/
theorem ofKey_concat_of_eq_nil (os : List Occurrence) {o : Occurrence} (ho : o.isTyped)
    (h : occurrencesAt os o.key = []) :
    Bucket.ofKey (os ++ [o]) o.key = ⟨o.signature, [o]⟩ := by
  unfold Bucket.ofKey
  rw [occurrencesAt_concat_self os ho, h]
  rfl

/-- Where an occurrence is put: into the one bucket of its key, or into a new one at the end. -/
theorem add_map (B : DefinitionKey → Bucket) (o : Occurrence) (ks : List DefinitionKey)
    (hks : ks.Nodup) :
    Buckets.add (ks.map fun k => (k, B k)) o =
      if o.key ∈ ks then
        ks.map fun k =>
          (k, if k = o.key then { B k with occurrences := (B k).occurrences ++ [o] } else B k)
      else (ks.map fun k => (k, B k)) ++ [(o.key, ⟨o.signature, [o]⟩)] := by
  induction ks with
  | nil => rfl
  | cons k ks ih =>
    rw [List.nodup_cons] at hks
    rw [List.map_cons, Buckets.add]
    by_cases hk : k = o.key
    · -- The keys are distinct, so no bucket behind this one has the key.
      have hrest : ∀ k' ∈ ks, k' ≠ o.key := by
        intro k' hk' h
        exact hks.1 (hk ▸ h ▸ hk')
      rw [if_pos hk, if_pos (by simp [hk]), List.map_cons, if_pos hk]
      congr 1
      refine List.map_congr_left fun k' hk' => ?_
      rw [if_neg (hrest k' hk')]
    · have hmem : o.key ∈ k :: ks ↔ o.key ∈ ks := by
        rw [List.mem_cons]
        exact or_iff_right (Ne.symm hk)
      rw [if_neg hk, ih hks.2]
      simp only [hmem]
      split_ifs
      · rw [List.map_cons, if_neg hk]
      · rfl

/-! ### All occurrences -/

/-- The keys of the typed occurrences, in the order of their first places. -/
def keysOf (os : List Occurrence) : List DefinitionKey :=
  distinct ((os.filter Occurrence.isTyped).map Occurrence.key)

theorem mem_keysOf {os : List Occurrence} {k : DefinitionKey} :
    k ∈ keysOf os ↔ ∃ o, o ∈ occurrencesAt os k := by
  simp only [keysOf, mem_distinct, List.mem_map, mem_occurrencesAt, List.mem_filter, and_assoc]

theorem occurrencesAt_ne_nil {os : List Occurrence} {k : DefinitionKey} :
    occurrencesAt os k ≠ [] ↔ k ∈ keysOf os := by
  rw [mem_keysOf]
  exact ⟨List.exists_mem_of_ne_nil _, fun ⟨_, h⟩ => List.ne_nil_of_mem h⟩

theorem nodup_keysOf (os : List Occurrence) : (keysOf os).Nodup :=
  nodup_distinct _

/-- The buckets stand under the keys of the typed occurrences, and each holds the occurrences of
its key. -/
theorem bucketsOf_eq (os : List Occurrence) :
    bucketsOf os = (keysOf os).map fun k => (k, Bucket.ofKey os k) := by
  induction os using List.reverseRecOn with
  | nil => rfl
  | append_singleton os o ih =>
    by_cases ho : o.isTyped = true
    · have hstep : bucketsOf (os ++ [o]) = (bucketsOf os).add o := by
        simp [bucketsOf, ho]
      have hkeys : keysOf (os ++ [o]) =
          if o.key ∈ keysOf os then keysOf os else keysOf os ++ [o.key] := by
        rw [keysOf, List.filter_append, List.map_append, List.filter_cons_of_pos ho,
          List.filter_nil, List.map_singleton, distinct_concat]
        rfl
      rw [hstep, ih, add_map _ _ _ (nodup_keysOf os), hkeys]
      split_ifs with hmem
      · refine List.map_congr_left fun k _ => ?_
        split_ifs with hk
        · rw [hk, ofKey_concat_of_mem os ho (occurrencesAt_ne_nil.mpr hmem)]
        · rw [ofKey_concat_of_not os fun h => hk h.2.symm]
      · have hnew : occurrencesAt os o.key = [] := by
          by_contra h
          exact hmem (occurrencesAt_ne_nil.mp h)
        rw [List.map_append, List.map_singleton, ofKey_concat_of_eq_nil os ho hnew]
        congr 1
        refine List.map_congr_left fun k hk => ?_
        rw [ofKey_concat_of_not os fun h => hmem (h.2 ▸ hk)]
    · have hskip : (os ++ [o]).filter Occurrence.isTyped = os.filter Occurrence.isTyped := by
        simp [ho]
      have hsame : ∀ k, Bucket.ofKey (os ++ [o]) k = Bucket.ofKey os k :=
        fun k => ofKey_concat_of_not os fun h => ho h.1
      simp only [bucketsOf, keysOf, hskip, hsame] at ih ⊢
      exact ih

/-- The bucket of a key is spelled as the first occurrence of the key. -/
theorem spelling_ofKey {os : List Occurrence} {k : DefinitionKey} (h : k ∈ keysOf os) :
    (occurrencesAt os k).head?.map Occurrence.signature = some (Bucket.ofKey os k).signature := by
  unfold Bucket.ofKey
  rw [List.head?_eq_some_head (occurrencesAt_ne_nil.mpr h)]
  rfl

/-- The bucket of a typed occurrence's key is spelled like the occurrence, but for case. -/
theorem lower_signature_ofKey {os : List Occurrence} {k : DefinitionKey} (h : k ∈ keysOf os) :
    lower (Bucket.ofKey os k).signature = k.signature := by
  obtain ⟨o, ho, hspelling⟩ := Option.map_eq_some_iff.mp (spelling_ofKey h)
  have hmem := mem_occurrencesAt.mp (List.mem_of_head? ho)
  rw [← hspelling]
  exact congrArg DefinitionKey.signature hmem.2.2

end ColumnLint
