import ColumnLint.Proofs.NameGroup

/-!
# The buckets share out the typed occurrences

Every place of a list that holds a typed occurrence lies in exactly one bucket, the one of its key,
and a place without a type lies in none; each bucket holds what stands at its places, in the order
of the list (`bucketsOf_partition`).  So no occurrence is lost or counted twice, even if it stands
in the list several times.

A bucket is known to hold the occurrences of its key (`bucketsOf_eq`), which does not yet tell equal
occurrences apart.  Their places do: those of a key (`placesAt`) are filtered from the list with its
places attached, as the occurrences are filtered from the list.
-/

namespace ColumnLint

open ColumnLint.Text

variable {os : List Occurrence} {k : DefinitionKey}

/-! ### Places -/

/-- The places of the typed occurrences with a key. -/
def placesAt (os : List Occurrence) (k : DefinitionKey) : List ℕ :=
  (os.zipIdx.filter fun p => p.1.isTyped && p.1.key = k).map Prod.snd

theorem mem_placesAt {i : ℕ} :
    i ∈ placesAt os k ↔ ∃ o, os[i]? = some o ∧ o.isTyped ∧ o.key = k := by
  simp [placesAt, List.mem_zipIdx_iff_getElem?]

theorem pairwise_placesAt (os : List Occurrence) (k : DefinitionKey) :
    (placesAt os k).Pairwise (· < ·) := by
  have hplaces : (os.zipIdx.map Prod.snd).Pairwise (· < ·) := by
    rw [List.zipIdx_map_snd]
    exact List.pairwise_lt_range'
  exact hplaces.sublist (List.filter_sublist.map _)

/-- At the places of a key stand the occurrences of the key. -/
theorem map_placesAt (os : List Occurrence) (k : DefinitionKey) :
    (placesAt os k).map (os[·]?) = (occurrencesAt os k).map some := by
  -- Without their places, the filtered pairs are the filtered occurrences.
  have hoccurrences : occurrencesAt os k =
      (os.zipIdx.filter fun p => p.1.isTyped && p.1.key = k).map Prod.fst := by
    conv_lhs => rw [← List.zipIdx_map_fst 0 os]
    unfold occurrencesAt
    rw [List.filter_map]
    rfl
  rw [hoccurrences, placesAt, List.map_map, List.map_map]
  refine List.map_congr_left fun p hp => ?_
  exact List.mem_zipIdx_iff_getElem?.mp (List.mem_filter.mp hp).1

/-- A place lies among those of one key or of none. -/
theorem filter_mem_placesAt {i : ℕ} {o : Occurrence} (h : os[i]? = some o) :
    (keysOf os).filter (fun k => i ∈ placesAt os k) = if o.isTyped then [o.key] else [] := by
  have hmem : ∀ k, i ∈ placesAt os k ↔ o.isTyped ∧ k = o.key := by
    intro k
    rw [mem_placesAt, h, eq_comm (a := k)]
    simp
  simp only [hmem]
  split_ifs with ho
  · -- The keys are distinct, so the key of the occurrence is the only one left.
    have hkey : o.key ∈ keysOf os :=
      mem_keysOf.mpr ⟨o, mem_occurrencesAt.mpr ⟨List.mem_of_getElem? h, ho, rfl⟩⟩
    simp only [ho, true_and]
    rw [List.filter_eq, List.count_eq_one_of_mem (nodup_keysOf os) hkey]
    rfl
  · simp [ho]

/-! ### Buckets -/

/-- The bucket holds what stands at the places, in the order of the list. -/
structure Bucket.HoldsPlaces (b : Bucket) (os : List Occurrence) (places : List ℕ) : Prop where
  increasing : places.Pairwise (· < ·)
  occurrences : places.map (os[·]?) = b.occurrences.map some

/-- The bucket is one of a key: it holds typed occurrences of the key, at least one, and is spelled
as the first of them. -/
structure Bucket.IsOf (b : Bucket) (k : DefinitionKey) : Prop where
  ne_nil : b.occurrences ≠ []
  key_eq : ∀ o ∈ b.occurrences, o.isTyped ∧ o.key = k
  spelling : b.occurrences.head?.map Occurrence.signature = some b.signature
  lower_signature : lower b.signature = k.signature

theorem holdsPlaces_ofKey (os : List Occurrence) (k : DefinitionKey) :
    (Bucket.ofKey os k).HoldsPlaces os (placesAt os k) where
  increasing := pairwise_placesAt os k
  occurrences := map_placesAt os k

theorem isOf_ofKey (h : k ∈ keysOf os) : (Bucket.ofKey os k).IsOf k where
  ne_nil := occurrencesAt_ne_nil.mpr h
  key_eq := fun _ ho => (mem_occurrencesAt.mp ho).2
  spelling := spelling_ofKey h
  lower_signature := lower_signature_ofKey h

theorem mem_bucketsOf {b : Bucket} :
    (k, b) ∈ bucketsOf os ↔ k ∈ keysOf os ∧ Bucket.ofKey os k = b := by
  rw [bucketsOf_eq]
  simp

theorem map_fst_bucketsOf (os : List Occurrence) : (bucketsOf os).map Prod.fst = keysOf os := by
  rw [bucketsOf_eq, List.map_map]
  exact List.map_id _

theorem count_key_typed (os : List Occurrence) (k : DefinitionKey) :
    ((os.filter Occurrence.isTyped).map Occurrence.key).count k = (occurrencesAt os k).length := by
  rw [← length_filter_key, List.filter_filter, occurrencesAt]
  congr 1
  refine List.filter_congr fun o _ => ?_
  exact Bool.and_comm _ _

/-- The buckets together hold as many occurrences as are typed. -/
theorem sum_count_bucketsOf (os : List Occurrence) :
    ((bucketsOf os).map fun e => e.2.count).sum = (os.filter Occurrence.isTyped).length := by
  have hcounts : ((bucketsOf os).map fun e => e.2.count) =
      (keysOf os).map (((os.filter Occurrence.isTyped).map Occurrence.key).count ·) := by
    rw [bucketsOf_eq, List.map_map]
    refine List.map_congr_left fun k _ => ?_
    exact (count_key_typed os k).symm
  rw [hcounts, keysOf, sum_count_distinct, List.length_map]

/-- Of buckets with one name, no two are spelled alike but for case. -/
theorem pairwise_lower_signature_bucketsOf (os : List Occurrence) :
    (bucketsOf os).Pairwise fun e e' =>
      e.1.name = e'.1.name → lower e.2.signature ≠ lower e'.2.signature := by
  rw [bucketsOf_eq, List.pairwise_map]
  refine (nodup_keysOf os).imp_of_mem fun hk hk' hne hname hsignature => ?_
  rw [lower_signature_ofKey hk, lower_signature_ofKey hk'] at hsignature
  exact hne (DefinitionKey.ext hname hsignature)

/-- The buckets share out the places of the typed occurrences by their keys, without loss, and stand
in the order in which the keys first occur. -/
theorem bucketsOf_partition (os : List Occurrence) :
    (∃ places : DefinitionKey → List ℕ,
      (∀ k b, (k, b) ∈ bucketsOf os → b.HoldsPlaces os (places k)) ∧
      ∀ i o, os[i]? = some o →
        ((bucketsOf os).map Prod.fst).filter (fun k => i ∈ places k) =
          if o.isTyped then [o.key] else []) ∧
    (∀ k b, (k, b) ∈ bucketsOf os → b.IsOf k) ∧
    ((bucketsOf os).map Prod.fst).Pairwise (fun k k' =>
      ((os.filter Occurrence.isTyped).map Occurrence.key).idxOf k <
        ((os.filter Occurrence.isTyped).map Occurrence.key).idxOf k') ∧
    ((bucketsOf os).map fun e => e.2.count).sum = (os.filter Occurrence.isTyped).length ∧
    (bucketsOf os).Pairwise fun e e' =>
      e.1.name = e'.1.name → lower e.2.signature ≠ lower e'.2.signature := by
  refine ⟨⟨placesAt os, ?_, ?_⟩, ?_, ?_, sum_count_bucketsOf os,
    pairwise_lower_signature_bucketsOf os⟩
  · intro k b hb
    obtain ⟨-, rfl⟩ := mem_bucketsOf.mp hb
    exact holdsPlaces_ofKey os k
  · intro i o ho
    rw [map_fst_bucketsOf]
    exact filter_mem_placesAt ho
  · intro k b hb
    obtain ⟨hk, rfl⟩ := mem_bucketsOf.mp hb
    exact isOf_ofKey hk
  · rw [map_fst_bucketsOf]
    exact pairwise_idxOf_distinct _

/-- A scan that meets one column twice, and the same definition in another spelling. -/
def repeatedScan : List Occurrence :=
  [⟨"Orders", "Code", some "varchar", ["10"], .described .null .null⟩,
    ⟨"Stock", "code", some " ", [], .described .null .null⟩,
    ⟨"Items", "CODE", some "INT", [], .described .null .null⟩,
    ⟨"Orders", "Code", some "varchar", ["10"], .described .null .null⟩,
    ⟨"Sales", "cODE", some "VARCHAR", [" 10 "], .described .null .null⟩]

/-- The column that is met twice is held twice, and the blank type is held by no bucket. -/
theorem bucketsOf_partition_repeatedScan :
    (bucketsOf repeatedScan).map (fun e => (e.1, e.2.signature, e.2.count)) =
      [(⟨"code", "varchar(10)"⟩, "varchar(10)", 3), (⟨"code", "int"⟩, "INT", 1)] ∧
    (∃ places : DefinitionKey → List ℕ,
      (∀ k b, (k, b) ∈ bucketsOf repeatedScan → b.HoldsPlaces repeatedScan (places k)) ∧
      ((bucketsOf repeatedScan).map Prod.fst).filter (fun k => 0 ∈ places k) =
        [⟨"code", "varchar(10)"⟩] ∧
      ((bucketsOf repeatedScan).map Prod.fst).filter (fun k => 1 ∈ places k) = [] ∧
      ((bucketsOf repeatedScan).map Prod.fst).filter (fun k => 3 ∈ places k) =
        [⟨"code", "varchar(10)"⟩]) ∧
    ((bucketsOf repeatedScan).map fun e => e.2.count).sum = 4 := by
  obtain ⟨⟨places, hholds, howner⟩, -, -, hsum, -⟩ := bucketsOf_partition repeatedScan
  refine ⟨by decide +kernel, ⟨places, hholds, ?_, ?_, ?_⟩, hsum⟩
  · exact (howner 0 _ rfl).trans (by decide +kernel)
  · exact (howner 1 _ rfl).trans (by decide +kernel)
  · exact (howner 3 _ rfl).trans (by decide +kernel)

end ColumnLint
