import ColumnLint.Proofs.Offense

/-!
# Names do not interfere

What is reported on a name is what the occurrences of this name alone would give, so it stays as it
is whatever becomes of the occurrences of other names (`mismatchedColumns_separate`).

The buckets of all names are filled in one pass.  In their closed form, however, the group of a name
speaks of the typed occurrences of the name only (`ofName?_congr`), and so do the offenses of these
occurrences (`of?_congr`).
-/

namespace ColumnLint

open ColumnLint.Text

variable {os os' : List Occurrence} {n : String}

/-! ### What a group depends on -/

/-- The bucket of a key depends on the occurrences of its name only. -/
theorem ofKey_congr {k : DefinitionKey}
    (h : occurrencesNamed os k.name = occurrencesNamed os' k.name) :
    Bucket.ofKey os k = Bucket.ofKey os' k := by
  unfold Bucket.ofKey
  rw [occurrencesAt_eq_filter, occurrencesAt_eq_filter, h]

/-- The group of a name depends on the occurrences of the name only. -/
theorem ofName?_congr (h : occurrencesNamed os n = occurrencesNamed os' n) :
    NameGroup.ofName? os n = NameGroup.ofName? os' n := by
  have hkeys : keysNamed os n = keysNamed os' n := by
    rw [keysNamed_eq_distinct, keysNamed_eq_distinct, h]
  have hbuckets : (keysNamed os n).map (Bucket.ofKey os) =
      (keysNamed os' n).map (Bucket.ofKey os') := by
    rw [← hkeys]
    refine List.map_congr_left fun k hk => ofKey_congr ?_
    rw [(mem_keysNamed.mp hk).2, h]
  unfold NameGroup.ofName?
  rw [hbuckets]

/-- Whether an occurrence is reported, and how, depends on the occurrences of its name only. -/
theorem of?_congr {o : Occurrence}
    (h : occurrencesNamed os o.loweredName = occurrencesNamed os' o.loweredName) :
    Offense.of? (contestedGroups os) o = Offense.of? (contestedGroups os') o := by
  unfold Offense.of?
  rw [lookup_contestedGroups, lookup_contestedGroups, ofName?_congr h]

/-! ### One name apart -/

/-- The occurrences of a name are all there among those that have the name. -/
theorem occurrencesNamed_filter_name (os : List Occurrence) (n : String) :
    occurrencesNamed (os.filter fun o => o.loweredName = n) n = occurrencesNamed os n := by
  unfold occurrencesNamed
  rw [List.filter_filter]
  refine List.filter_congr fun o _ => ?_
  rw [Bool.and_assoc, Bool.and_self]

/-- An offense keeps the name of its occurrence. -/
theorem name_of_of? {groups : NameGroups} {o : Occurrence} {x : Offense}
    (h : Offense.of? groups o = some x) : x.name = o.name := by
  unfold Offense.of? at h
  split_ifs at h
  split at h
  · exact absurd h nofun
  · obtain ⟨b, -, rfl⟩ := Option.map_eq_some_iff.mp h
    rfl

/-- The offenses on a name are those of the occurrences that have it. -/
theorem filter_name_select (os : List Occurrence) (groups : NameGroups) (n : String) :
    (Offense.select os groups).filter (fun x => lower x.name = n) =
      Offense.select (os.filter fun o => o.loweredName = n) groups := by
  unfold Offense.select
  rw [List.filter_filterMap, List.filterMap_filter]
  refine List.filterMap_congr fun o _ => ?_
  cases hx : Offense.of? groups o with
  | none => simp
  | some x =>
    have hname : lower x.name = o.loweredName := congrArg lower (name_of_of? hx)
    rw [Option.filter_some, hname]

/-- The occurrences of a name give the offenses on the name, whatever stands between them. -/
theorem mismatchedColumns_filter_name (os : List Occurrence) (n : String) :
    mismatchedColumns (os.filter fun o => o.loweredName = n) =
      (mismatchedColumns os).filter fun x => lower x.name = n := by
  unfold mismatchedColumns
  rw [filter_name_select]
  unfold Offense.select
  refine List.filterMap_congr fun o ho => ?_
  have hname : o.loweredName = n := of_decide_eq_true (List.mem_filter.mp ho).2
  apply of?_congr
  rw [hname, occurrencesNamed_filter_name]

/-- The offenses on a name are those that its occurrences alone give, and they stay the same when
occurrences of another name come, go or change. -/
theorem mismatchedColumns_separate (os : List Occurrence) :
    (∀ n, mismatchedColumns (os.filter fun o => o.loweredName = n) =
      (mismatchedColumns os).filter fun x => lower x.name = n) ∧
    ∀ (os' : List Occurrence) (changed : String),
      (os.filter fun o => o.loweredName ≠ changed) =
        (os'.filter fun o => o.loweredName ≠ changed) →
      ∀ n, n ≠ changed →
        (mismatchedColumns os').filter (fun x => lower x.name = n) =
          (mismatchedColumns os).filter (fun x => lower x.name = n) := by
  refine ⟨mismatchedColumns_filter_name os, fun os' changed hsame n hn => ?_⟩
  -- The occurrences of a name that does not change are found among those that are left.
  have hnamed : ∀ os : List Occurrence, (os.filter fun o => o.loweredName = n) =
      (os.filter fun o => o.loweredName ≠ changed).filter fun o => o.loweredName = n := by
    intro os
    rw [List.filter_filter]
    refine List.filter_congr fun o _ => ?_
    by_cases ho : o.loweredName = n <;> simp [ho, hn]
  rw [← mismatchedColumns_filter_name, ← mismatchedColumns_filter_name, hnamed os, hnamed os',
    hsame]

/-- Two names with two definitions each, one of them spelled in two ways. -/
def interleavedScan : List Occurrence :=
  [⟨"Orders", "Code", some "varchar", ["10"], .described .null .null⟩,
    ⟨"Orders", "ID", some "int", [], .described .null .null⟩,
    ⟨"Items", "CODE", some "char", ["10"], .described .null .null⟩,
    ⟨"Items", "Id", some "bigint", [], .described .null .null⟩]

/-- The same scan with another type for one `Id` and one more `iD` in front. -/
def retypedScan : List Occurrence :=
  [⟨"Stock", "iD", some "bigint", [], .described .null .null⟩,
    ⟨"Orders", "Code", some "varchar", ["10"], .described .null .null⟩,
    ⟨"Orders", "ID", some "bigint", [], .described .null .null⟩,
    ⟨"Items", "CODE", some "char", ["10"], .described .null .null⟩,
    ⟨"Items", "Id", some "bigint", [], .described .null .null⟩]

/-- Retyping `Id` settles that name and leaves both offenses on `Code` as they were. -/
theorem mismatchedColumns_separate_retypedScan :
    (mismatchedColumns interleavedScan).map (fun x => (x.name, x.signature, x.dominantSignature)) =
      [("Code", "varchar(10)", "char(10)"), ("ID", "int", "bigint"),
        ("CODE", "char(10)", "char(10)"), ("Id", "bigint", "bigint")] ∧
    (mismatchedColumns retypedScan).map (fun x => (x.name, x.signature, x.dominantSignature)) =
      [("Code", "varchar(10)", "char(10)"), ("CODE", "char(10)", "char(10)")] ∧
    (mismatchedColumns retypedScan).filter (fun x => lower x.name = "code") =
      (mismatchedColumns interleavedScan).filter (fun x => lower x.name = "code") := by
  refine ⟨by decide +kernel, by decide +kernel, ?_⟩
  have hsame : (interleavedScan.filter fun o => o.loweredName ≠ "id") =
      (retypedScan.filter fun o => o.loweredName ≠ "id") := by
    rfl
  exact (mismatchedColumns_separate interleavedScan).2 retypedScan "id" hsame "code" (by decide)

end ColumnLint
