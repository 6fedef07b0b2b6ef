import ColumnLint.Proofs.Bucket
import Mathlib.Data.Prod.Lex
import Mathlib.Data.String.Basic
import Mathlib.Order.Bounds.Basic

/-!
# What the groups of a name say

The group of a name is made of the buckets of its keys (`NameGroup.ofName?`), and looking up a
name among the groups finds it (`lookup_nameGroups`).  `NameGroup.Summarizes` collects what its
statistics say about the occurrences of the name: the number of keys, the number of occurrences,
and the key that dominates, which is the least in the order of `definitionRank`: more occurrences
first, then the lesser signature.

The dominant bucket is found by a fold that keeps the better of two; that it is the least of all
is an induction on the buckets still to come (`rank_dominant_le`).
-/

namespace ColumnLint

open ColumnLint.Text

/-! ### The dominant bucket -/

namespace NameGroup

/-- The order in which buckets dominate: by more occurrences, then by lesser signature. -/
def rank (b : Bucket) : ℕᵒᵈ ×ₗ String :=
  toLex (OrderDual.toDual b.count, lower b.signature)

theorem outranks_iff (b a : Bucket) : outranks b a = true ↔ rank b < rank a := by
  unfold outranks rank
  rw [Prod.Lex.toLex_lt_toLex]
  simp only [Bool.or_eq_true, Bool.and_eq_true, decide_eq_true_eq, beq_iff_eq,
    OrderDual.toDual_lt_toDual, OrderDual.toDual_inj]
  rw [@eq_comm _ a.count]

/-- One step of the search keeps the bucket of lesser rank. -/
theorem rank_step (best b : Bucket) :
    rank (if outranks b best then b else best) = min (rank b) (rank best) := by
  split_ifs with h
  · rw [min_eq_left ((outranks_iff _ _).mp h).le]
  · rw [outranks_iff, not_lt] at h
    rw [min_eq_right h]

theorem dominant_mem (first : Bucket) (others : List Bucket) :
    dominant first others ∈ first :: others := by
  induction others generalizing first with
  | nil => simp [dominant]
  | cons b others ih =>
    have h := ih (if outranks b first then b else first)
    rw [show dominant first (b :: others)
      = dominant (if outranks b first then b else first) others from rfl]
    rcases List.mem_cons.mp h with h | h
    · rw [h]
      split_ifs <;> simp
    · exact List.mem_cons_of_mem _ (List.mem_cons_of_mem _ h)

/-- No bucket outranks the dominant one. -/
theorem rank_dominant_le (first : Bucket) (others : List Bucket) :
    ∀ b ∈ first :: others, rank (dominant first others) ≤ rank b := by
  -- The best bucket so far becomes the first one, so the induction is for every first bucket.
  induction others generalizing first with
  | nil =>
    intro b hb
    rw [List.mem_singleton.mp hb]
    exact le_rfl
  | cons b' others ih =>
    intro b hb
    have hstep := rank_step first b'
    have hrest := ih (if outranks b' first then b' else first)
    have hbest := hrest _ (List.mem_cons_self ..)
    show rank (dominant (if outranks b' first then b' else first) others) ≤ rank b
    rw [List.mem_cons, List.mem_cons] at hb
    rcases hb with rfl | rfl | hb
    · exact hbest.trans (hstep ▸ min_le_right _ _)
    · exact hbest.trans (hstep ▸ min_le_left _ _)
    · exact hrest b (List.mem_cons_of_mem _ hb)

end NameGroup

/-! ### The keys of a name -/

/-- The typed occurrences with a lower-case name. -/
def occurrencesNamed (os : List Occurrence) (n : String) : List Occurrence :=
  os.filter fun o => o.isTyped && o.loweredName = n

/-- The keys of the occurrences with a lower-case name, in the order of their first places. -/
def keysNamed (os : List Occurrence) (n : String) : List DefinitionKey :=
  (keysOf os).filter fun k => k.name = n

variable {os : List Occurrence} {n : String} {k : DefinitionKey} {o : Occurrence}

theorem mem_occurrencesNamed :
    o ∈ occurrencesNamed os n ↔ o ∈ os ∧ o.isTyped ∧ o.loweredName = n := by
  simp [occurrencesNamed]

theorem mem_keysNamed : k ∈ keysNamed os n ↔ k ∈ keysOf os ∧ k.name = n := by
  simp [keysNamed]

theorem nodup_keysNamed (os : List Occurrence) (n : String) : (keysNamed os n).Nodup :=
  (nodup_keysOf os).filter _

theorem keysNamed_eq_distinct (os : List Occurrence) (n : String) :
    keysNamed os n = distinct ((occurrencesNamed os n).map Occurrence.key) := by
  unfold keysNamed keysOf occurrencesNamed
  rw [← distinct_filter, List.filter_map, List.filter_filter]
  congr 3
  funext o
  exact Bool.and_comm _ _

/-- The keys of a name are those of its occurrences. -/
theorem mem_keysNamed_iff_exists :
    k ∈ keysNamed os n ↔ ∃ o ∈ occurrencesNamed os n, o.key = k := by
  rw [keysNamed_eq_distinct, mem_distinct, List.mem_map]

theorem key_mem_keysNamed (h : o ∈ occurrencesNamed os n) : o.key ∈ keysNamed os n :=
  mem_keysNamed_iff_exists.mpr ⟨o, h, rfl⟩

/-- The occurrences of a key are found among those of its name. -/
theorem occurrencesAt_eq_filter (os : List Occurrence) (k : DefinitionKey) :
    occurrencesAt os k = (occurrencesNamed os k.name).filter fun o => o.key = k := by
  unfold occurrencesAt occurrencesNamed
  rw [List.filter_filter]
  refine List.filter_congr fun o _ => ?_
  by_cases h : o.key = k
  · subst h
    simp [Occurrence.key]
  · simp [h]

theorem length_occurrencesAt (os : List Occurrence) (k : DefinitionKey) :
    (occurrencesAt os k).length = ((occurrencesNamed os k.name).map Occurrence.key).count k := by
  rw [occurrencesAt_eq_filter, length_filter_key]

/-- The signatures, in lower case, of the typed occurrences with a lower-case name. -/
def loweredSignatures (os : List Occurrence) (n : String) : List String :=
  (occurrencesNamed os n).map fun o => lower o.signature

theorem DefinitionKey.mk_injective (n : String) : Function.Injective (DefinitionKey.mk n) := by
  intro s s' h
  exact (DefinitionKey.mk.inj h).2

/-- Of one name, the signatures make the keys. -/
theorem map_key_occurrencesNamed (os : List Occurrence) (n : String) :
    (occurrencesNamed os n).map Occurrence.key =
      (loweredSignatures os n).map (DefinitionKey.mk n) := by
  rw [loweredSignatures, List.map_map]
  refine List.map_congr_left fun o ho => ?_
  exact DefinitionKey.ext (mem_occurrencesNamed.mp ho).2.2 rfl

theorem mem_loweredSignatures {s : String} :
    s ∈ loweredSignatures os n ↔ (⟨n, s⟩ : DefinitionKey) ∈ keysNamed os n := by
  rw [keysNamed_eq_distinct, mem_distinct, map_key_occurrencesNamed,
    List.mem_map_of_injective (DefinitionKey.mk_injective n)]

theorem count_loweredSignatures (os : List Occurrence) (n s : String) :
    (loweredSignatures os n).count s = (occurrencesAt os ⟨n, s⟩).length := by
  rw [length_occurrencesAt, map_key_occurrencesNamed,
    List.count_map_of_injective _ _ (DefinitionKey.mk_injective n)]

/-- A name has as many keys as signatures. -/
theorem length_keysNamed (os : List Occurrence) (n : String) :
    (keysNamed os n).length = (loweredSignatures os n).toFinset.card := by
  have hfinset : ((loweredSignatures os n).map (DefinitionKey.mk n)).toFinset =
      (loweredSignatures os n).toFinset.image (DefinitionKey.mk n) := by
    ext k
    simp
  rw [keysNamed_eq_distinct, map_key_occurrencesNamed, length_distinct, hfinset,
    Finset.card_image_of_injective _ (DefinitionKey.mk_injective n)]

/-- The occurrences of a name, counted key by key. -/
theorem sum_length_occurrencesAt (os : List Occurrence) (n : String) :
    ((keysNamed os n).map fun k => (occurrencesAt os k).length).sum =
      (occurrencesNamed os n).length := by
  have hcount : (keysNamed os n).map (fun k => (occurrencesAt os k).length) =
      (keysNamed os n).map fun k => ((occurrencesNamed os n).map Occurrence.key).count k := by
    refine List.map_congr_left fun k hk => ?_
    rw [length_occurrencesAt, (mem_keysNamed.mp hk).2]
  rw [hcount, keysNamed_eq_distinct, sum_count_distinct, List.length_map]

/-! ### Looking up a name -/

/-- The group of a lower-case name, if a typed occurrence has it. -/
def NameGroup.ofName? (os : List Occurrence) (n : String) : Option NameGroup :=
  match (keysNamed os n).map (Bucket.ofKey os) with
  | [] => none
  | first :: others => some (NameGroup.ofBuckets first others)

/-- The lower-case names of the typed occurrences, in the order of their first places. -/
def namesOf (os : List Occurrence) : List String :=
  distinct ((os.filter Occurrence.isTyped).map Occurrence.loweredName)

theorem mem_namesOf : n ∈ namesOf os ↔ ∃ o, o ∈ occurrencesNamed os n := by
  simp only [namesOf, mem_distinct, List.mem_map, mem_occurrencesNamed, List.mem_filter, and_assoc]

theorem namesOf_eq_distinct (os : List Occurrence) :
    namesOf os = distinct ((keysOf os).map DefinitionKey.name) := by
  unfold namesOf keysOf
  rw [distinct_map_distinct, List.map_map]
  rfl

/-- The buckets that stand under keys of a name. -/
theorem map_snd_filter_bucketsOf (os : List Occurrence) (n : String) :
    ((bucketsOf os).filter fun b => b.1.name = n).map Prod.snd =
      (keysNamed os n).map (Bucket.ofKey os) := by
  rw [bucketsOf_eq, List.filter_map, List.map_map]
  rfl

/-- The groups stand under the names of the typed occurrences. -/
theorem nameGroups_eq (os : List Occurrence) :
    nameGroups os =
      (namesOf os).filterMap fun n => (NameGroup.ofName? os n).map (Prod.mk n) := by
  have hnames : (bucketsOf os).map (fun b => b.1.name) = (keysOf os).map DefinitionKey.name := by
    rw [bucketsOf_eq, List.map_map]
    rfl
  unfold nameGroups groupsOfBuckets
  rw [hnames, ← namesOf_eq_distinct]
  refine List.filterMap_congr fun n _ => ?_
  rw [map_snd_filter_bucketsOf, NameGroup.ofName?]
  cases (keysNamed os n).map (Bucket.ofKey os) <;> rfl

/-- Looking up among the images of members, under the members. -/
theorem lookup_filterMap {α β : Type*} [DecidableEq α] (f : α → Option β) (xs : List α) (a : α) :
    (xs.filterMap fun x => (f x).map (Prod.mk x)).lookup a = if a ∈ xs then f a else none := by
  induction xs with
  | nil => rfl
  | cons x xs ih =>
    by_cases hx : a = x
    · subst hx
      rw [List.filterMap_cons, if_pos (List.mem_cons_self ..)]
      cases hf : f a with
      | none =>
        -- Further places of `a` have no image either.
        rw [Option.map_none]
        simp only [ih, hf, ite_self]
      | some b => simp
    · have hmem : a ∈ x :: xs ↔ a ∈ xs := by
        rw [List.mem_cons]
        exact or_iff_right hx
      rw [List.filterMap_cons]
      simp only [hmem]
      rw [← ih]
      cases hf : f x with
      | none => rfl
      | some b =>
        have hne : (a == x) = false := beq_false_of_ne hx
        simp only [Option.map_some, List.lookup_cons, hne]

/-- A search that only `a` can end finds it where it stands. -/
theorem find?_eq_ite {α : Type*} [DecidableEq α] {xs : List α} {p : α → Bool} {a : α}
    (h : ∀ x ∈ xs, p x = true ↔ x = a) : xs.find? p = if a ∈ xs then some a else none := by
  split_ifs with ha
  · cases hfind : xs.find? p with
    | none => exact absurd ((h a ha).mpr rfl) (List.find?_eq_none.mp hfind a ha)
    | some x => rw [(h x (List.mem_of_find?_eq_some hfind)).mp (List.find?_some hfind)]
  · rw [List.find?_eq_none]
    intro x hx hp
    exact ha ((h x hx).mp hp ▸ hx)

/-- A key has a bucket if a typed occurrence has the key. -/
theorem lookup_bucketsOf (os : List Occurrence) (k : DefinitionKey) :
    (bucketsOf os).lookup k = if k ∈ keysOf os then some (Bucket.ofKey os k) else none := by
  rw [bucketsOf_eq, ← List.filterMap_eq_map]
  exact lookup_filterMap (fun k => some (Bucket.ofKey os k)) (keysOf os) k

theorem ofName?_of_not_mem (h : n ∉ namesOf os) : NameGroup.ofName? os n = none := by
  have hkeys : keysNamed os n = [] := by
    rw [List.eq_nil_iff_forall_not_mem]
    intro k hk
    rw [mem_keysNamed, mem_keysOf] at hk
    obtain ⟨⟨o, ho⟩, rfl⟩ := hk
    rw [mem_occurrencesAt] at ho
    exact h (mem_namesOf.mpr ⟨o, mem_occurrencesNamed.mpr ⟨ho.1, ho.2.1, ho.2.2 ▸ rfl⟩⟩)
  rw [NameGroup.ofName?, hkeys]
  rfl

theorem lookup_nameGroups (os : List Occurrence) (n : String) :
    (nameGroups os).lookup n = NameGroup.ofName? os n := by
  rw [nameGroups_eq, lookup_filterMap]
  split_ifs with h
  · rfl
  · rw [ofName?_of_not_mem h]

theorem mem_nameGroups {g : NameGroup} :
    (n, g) ∈ nameGroups os ↔ NameGroup.ofName? os n = some g := by
  rw [nameGroups_eq, List.mem_filterMap]
  constructor
  · rintro ⟨m, _, h⟩
    rw [Option.map_eq_some_iff] at h
    obtain ⟨g', hg', h⟩ := h
    rw [Prod.mk.injEq] at h
    rw [← h.1, ← h.2, hg']
  · intro h
    refine ⟨n, ?_, by rw [h]; rfl⟩
    by_contra hn
    rw [ofName?_of_not_mem hn] at h
    exact absurd h (by simp)

/-! ### The statistics of a name -/

/-- The order in which the keys of a name dominate: by more occurrences, then by lesser
signature. -/
def definitionRank (os : List Occurrence) (k : DefinitionKey) : ℕᵒᵈ ×ₗ String :=
  toLex (OrderDual.toDual (occurrencesAt os k).length, k.signature)

theorem rank_ofKey (h : k ∈ keysOf os) :
    NameGroup.rank (Bucket.ofKey os k) = definitionRank os k := by
  unfold NameGroup.rank definitionRank
  rw [lower_signature_ofKey h]
  rfl

/-- What a group says about the occurrences of a lower-case name, of whose keys `d` dominates. -/
structure NameGroup.Summarizes (g : NameGroup) (os : List Occurrence) (n : String)
    (d : DefinitionKey) : Prop where
  name : (occurrencesNamed os n).head?.map Occurrence.name = some g.name
  buckets : g.buckets = (keysNamed os n).map (Bucket.ofKey os)
  definitionCount : g.definitionCount = (keysNamed os n).length
  totalOccurrences : g.totalOccurrences = (occurrencesNamed os n).length
  mem_keys : d ∈ keysNamed os n
  rank_le : ∀ k ∈ keysNamed os n, definitionRank os d ≤ definitionRank os k
  dominantSignature : g.dominantSignature = (Bucket.ofKey os d).signature
  dominantCount : g.dominantCount = (occurrencesAt os d).length

theorem foldr_count (bs : List Bucket) : bs.foldr (·.count + ·) 0 = (bs.map Bucket.count).sum := by
  rw [List.sum_eq_foldr, List.foldr_map]

/-- The first bucket of a name is headed by the first occurrence of the name. -/
theorem head?_occurrencesAt {ks : List DefinitionKey} (h : keysNamed os n = k :: ks) :
    (occurrencesAt os k).head? = (occurrencesNamed os n).head? := by
  have hname : k.name = n := (mem_keysNamed.mp (h ▸ List.mem_cons_self ..)).2
  have hhead := head?_distinct ((occurrencesNamed os n).map Occurrence.key)
  rw [← keysNamed_eq_distinct, h, List.head?_map, List.head?_cons] at hhead
  rw [occurrencesAt_eq_filter, hname]
  cases hos : occurrencesNamed os n with
  | nil =>
    rw [hos] at hhead
    exact absurd hhead (by simp)
  | cons o rest =>
    rw [hos, List.head?_cons, Option.map_some, Option.some.injEq] at hhead
    rw [List.filter_cons_of_pos (by simp [hhead]), List.head?_cons, List.head?_cons]

/-- The group of a name holds the statistics of the name. -/
theorem exists_summarizes {g : NameGroup} (h : NameGroup.ofName? os n = some g) :
    ∃ d, g.Summarizes os n d := by
  unfold NameGroup.ofName? at h
  cases hks : keysNamed os n with
  | nil =>
    rw [hks] at h
    exact absurd h (by simp)
  | cons k ks =>
    rw [hks, List.map_cons] at h
    obtain rfl := Option.some.inj h
    have hall : Bucket.ofKey os k :: ks.map (Bucket.ofKey os) =
        (keysNamed os n).map (Bucket.ofKey os) := by
      rw [hks, List.map_cons]
    have hmem := NameGroup.dominant_mem (Bucket.ofKey os k) (ks.map (Bucket.ofKey os))
    have hle := NameGroup.rank_dominant_le (Bucket.ofKey os k) (ks.map (Bucket.ofKey os))
    rw [hall, List.mem_map] at hmem
    obtain ⟨d, hd, hbest⟩ := hmem
    rw [← hbest, hall] at hle
    exact ⟨d, {
      name := by
        have hne : occurrencesAt os k ≠ [] :=
          occurrencesAt_ne_nil.mpr (mem_keysNamed.mp (hks ▸ List.mem_cons_self ..)).1
        rw [← head?_occurrencesAt hks]
        simp [NameGroup.ofBuckets, Bucket.ofKey, List.head?_eq_some_head hne]
      buckets := hall
      definitionCount := by simp [NameGroup.ofBuckets, hks]
      totalOccurrences := by
        show (((Bucket.ofKey os k :: ks.map (Bucket.ofKey os)).foldr (·.count + ·) 0 : ℕ) : ℤ) = _
        rw [hall, foldr_count, List.map_map, ← sum_length_occurrencesAt]
        rfl
      mem_keys := hd
      rank_le := by
        intro k' hk'
        rw [← rank_ofKey (mem_keysNamed.mp hd).1, ← rank_ofKey (mem_keysNamed.mp hk').1]
        exact hle _ (List.mem_map_of_mem hk')
      dominantSignature := by
        rw [hbest]
        rfl
      dominantCount := by
        show ((NameGroup.dominant _ _).count : ℤ) = _
        rw [← hbest]
        rfl }⟩

end ColumnLint
