import ColumnLint.Catalog
import ColumnLint.Proofs.Decision
import ColumnLint.Proofs.Text.Refold
import ColumnLint.Proofs.Validation

/-!
# Names from statements and from documents

A statement gives a column the upper-case form of its name, and a document the name as it is
written.  So a column that is declared under a name and one that is described under the same name
come together iff lower-casing the upper-case form gives the lower-case form of the name
(`declared_described`), for which `refolds` is an exact criterion.  Names of ASCII characters
fulfil it.  Others need not: `straße` is declared as `STRASSE`, and what a statement and a document
say of it is never compared (`declared_described_strasse`).

Of two typed occurrences one group tells whether their lower-case names are equal
(`exists_group_iff`).  Then different signatures make both of them conflict.
-/

namespace ColumnLint

open ColumnLint.Text

variable {os : List Occurrence} {o o' : Occurrence}

/-! ### Names of columns -/

namespace Sql

/-- The columns of a created table have the upper-case forms of the names that are not empty. -/
theorem names_tableOf (key : TableKey) (definitions : List ColumnDefinition) :
    (tableOf key definitions).columns.map Column.name =
      ((definitions.map ColumnDefinition.name).filter (· ≠ "")).map upper := by
  rw [List.filter_map, List.map_map]
  refine List.ext_getElem (by simp [tableOf, Function.comp_def]) fun i h h' => ?_
  simp only [tableOf, List.getElem_map, List.getElem_mapIdx]
  rfl

/-- A column that is added to a table has the upper-case form of its name, if that is not empty. -/
theorem names_addColumn (c : ColumnDefinition) (ifAbsent : Bool) (t : Table) :
    ((TableChange.addColumn c ifAbsent).apply t).map Column.name =
      t.columns.map Column.name ++ ([c.name].filter (· ≠ "")).map upper := by
  unfold TableChange.apply
  dsimp only
  split_ifs with hname
  · simp [hname]
  · simp [hname, ColumnDefinition.toColumn]

end Sql

/-- A described column has the name that stands in the document. -/
theorem name_of_read {m : Members} {c : Column} {s : String} (h : Column.read m = .valid c)
    (hs : m.lookup "column_name" = some (.text s)) : c.name = s := by
  unfold Column.read at h
  simp only [Validated.seq_eq_valid_iff, Validated.map_eq_valid_iff] at h
  -- The field of the name is the fourth of nine.
  obtain ⟨_, _, ⟨_, _, ⟨_, _, ⟨_, _, ⟨_, _, ⟨_, name, ⟨_, _, ⟨_, _, ⟨_, -, rfl⟩, -, rfl⟩, -, rfl⟩,
    hname, rfl⟩, -, rfl⟩, -, rfl⟩, -, rfl⟩, -, rfl⟩, -, rfl⟩ := h
  unfold Members.required at hname
  rw [hs] at hname
  exact (Validated.valid.inj hname).symm

/-! ### Groups of names -/

/-- Whether an occurrence stands in a bucket of a group. -/
def NameGroup.Holds (g : NameGroup) (o : Occurrence) : Prop :=
  ∃ b ∈ g.buckets, o ∈ b.occurrences

/-- The group of a name holds the typed occurrences of the name. -/
theorem NameGroup.holds_iff {g : NameGroup} {n : String} (h : NameGroup.ofName? os n = some g) :
    g.Holds o ↔ o ∈ occurrencesNamed os n := by
  obtain ⟨d, hsummary⟩ := exists_summarizes h
  unfold NameGroup.Holds
  rw [hsummary.buckets]
  constructor
  · rintro ⟨b, hb, ho⟩
    obtain ⟨k, hk, rfl⟩ := List.mem_map.mp hb
    obtain ⟨hmem, htyped, rfl⟩ := mem_occurrencesAt.mp ho
    exact mem_occurrencesNamed.mpr ⟨hmem, htyped, (mem_keysNamed.mp hk).2⟩
  · intro ho
    obtain ⟨hmem, htyped, -⟩ := mem_occurrencesNamed.mp ho
    exact ⟨_, List.mem_map_of_mem (key_mem_keysNamed ho),
      mem_occurrencesAt.mpr ⟨hmem, htyped, rfl⟩⟩

/-- Two typed occurrences stand in one group iff their lower-case names are equal. -/
theorem exists_group_iff (ho : o ∈ os) (ho' : o' ∈ os) (htyped : o.isTyped) (htyped' : o'.isTyped) :
    (∃ p ∈ nameGroups os, p.2.Holds o ∧ p.2.Holds o') ↔ o.loweredName = o'.loweredName := by
  constructor
  · rintro ⟨⟨n, g⟩, hg, hholds, hholds'⟩
    rw [NameGroup.holds_iff (mem_nameGroups.mp hg), mem_occurrencesNamed] at hholds hholds'
    exact hholds.2.2.trans hholds'.2.2.symm
  · intro hname
    obtain ⟨hnamed, g, hg⟩ := exists_ofName?_of_mem ho htyped
    refine ⟨⟨_, g⟩, mem_nameGroups.mpr hg, (NameGroup.holds_iff hg).mpr hnamed, ?_⟩
    exact (NameGroup.holds_iff hg).mpr (mem_occurrencesNamed.mpr ⟨ho', htyped', hname.symm⟩)

/-- Whether the report on the occurrences tells of one. -/
def Occurrence.IsReported (os : List Occurrence) (o : Occurrence) : Prop :=
  ∃ x ∈ mismatchedColumns os, x.Reports os o

theorem Occurrence.Conflicts.isReported (ho : o ∈ os) (h : o.Conflicts os) : o.IsReported os := by
  have hoffense := of?_reports ho
  rw [if_pos h] at hoffense
  obtain ⟨x, hx, hreports⟩ := hoffense
  exact ⟨x, List.mem_filterMap.mpr ⟨o, ho, hx⟩, hreports⟩

/-- Two occurrences of one name and different signatures are both reported. -/
theorem isReported_both (ho : o ∈ os) (ho' : o' ∈ os) (htyped : o.isTyped) (htyped' : o'.isTyped)
    (hname : o.loweredName = o'.loweredName) (hne : lower o.signature ≠ lower o'.signature) :
    o.IsReported os ∧ o'.IsReported os :=
  ⟨Occurrence.Conflicts.isReported ho ⟨htyped, o', ho', htyped', hname.symm, hne.symm⟩,
    Occurrence.Conflicts.isReported ho' ⟨htyped', o, ho, htyped, hname, hne⟩⟩

/-- Two occurrences of different names are not reported on their own. -/
theorem mismatchedColumns_pair_of_ne (hname : o.loweredName ≠ o'.loweredName) :
    mismatchedColumns [o, o'] = [] := by
  rw [mismatchedColumns_eq_nil_iff]
  simp only [List.forall_mem_cons, List.not_mem_nil, false_implies, implies_true, and_true]
  constructor
  · rintro ⟨-, p, hp, -, hsame, hne⟩
    obtain rfl | rfl := List.mem_pair.mp hp
    · exact hne rfl
    · exact hname hsame.symm
  · rintro ⟨-, p, hp, -, hsame, hne⟩
    obtain rfl | rfl := List.mem_pair.mp hp
    · exact hname hsame
    · exact hne rfl

/-! ### Declared and described -/

/-- What a statement and a document make of a name `s`.  The statement names the column by the
upper-case form, whether it creates the table or adds the column, and the document as it is written.
Among any occurrences the two columns stand in one group iff `s` refolds, as every text of ASCII
characters does.  Then both are reported if their signatures differ; if not, nothing is reported of
the two. -/
theorem declared_described (s : String) :
    (∀ key definitions, (Sql.tableOf key definitions).columns.map Column.name =
      ((definitions.map Sql.ColumnDefinition.name).filter (· ≠ "")).map upper) ∧
    (∀ definition ifAbsent t,
      ((Sql.TableChange.addColumn definition ifAbsent).apply t).map Column.name =
        t.columns.map Column.name ++ ([definition.name].filter (· ≠ "")).map upper) ∧
    (∀ m c, Column.read m = .valid c → m.lookup "column_name" = some (.text s) → c.name = s) ∧
    ((∀ c ∈ s.toList, c.toNat < 128) → refolds s = true) ∧
    ∀ os, ∀ declared ∈ os, ∀ described ∈ os, declared.isTyped → described.isTyped →
      declared.name = upper s → described.name = s →
      ((∃ p ∈ nameGroups os, p.2.Holds declared ∧ p.2.Holds described) ↔ refolds s = true) ∧
      (refolds s = true → lower declared.signature ≠ lower described.signature →
        declared.IsReported os ∧ described.IsReported os) ∧
      (refolds s = false → mismatchedColumns [declared, described] = []) := by
  refine ⟨Sql.names_tableOf, Sql.names_addColumn, fun m c => name_of_read, refolds_of_ascii,
    fun os o ho o' ho' htyped htyped' hname hname' => ?_⟩
  have hsame : o.loweredName = o'.loweredName ↔ refolds s = true := by
    rw [Occurrence.loweredName, Occurrence.loweredName, hname, hname', lower_upper_eq_iff]
  refine ⟨(exists_group_iff ho ho' htyped htyped').trans hsame, fun hrefolds hne => ?_,
    fun hnot => ?_⟩
  · exact isReported_both ho ho' htyped htyped' (hsame.mpr hrefolds) hne
  · exact mismatchedColumns_pair_of_ne fun h => absurd (hsame.mp h) (by rw [hnot]; decide)

/-- A column of a document. -/
def describedId : Occurrence :=
  Occurrence.ofColumn ⟨none, "PUBLIC", "orders", []⟩
    ⟨none, "PUBLIC", "orders", "iD", some "INT", [], true, 1, []⟩

/-- A column that a statement creates, defined under the same name. -/
def declaredId : Occurrence :=
  let definition : Sql.ColumnDefinition := ⟨"iD", ⟨some "BIGINT", []⟩, true, []⟩
  Occurrence.ofColumn (Sql.tableOf ⟨"", "DBO", "ITEMS"⟩ [definition])
    (definition.toColumn none "DBO" "ITEMS" 1)

/-- The two are named differently, and both are reported. -/
theorem declared_described_id :
    declaredId.name ≠ describedId.name ∧ declaredId.IsReported [describedId, declaredId] ∧
      describedId.IsReported [describedId, declaredId] := by
  obtain ⟨-, -, -, hascii, hmeet⟩ := declared_described "iD"
  have hrefolds : refolds "iD" = true := hascii (by simp)
  obtain ⟨-, hreported, -⟩ := hmeet [describedId, declaredId] declaredId (by simp) describedId
    (by simp) (by decide +kernel) (by decide +kernel) rfl rfl
  exact ⟨by decide, hreported hrefolds (by decide +kernel)⟩

/-- A document that describes a street, and a script that declares one. -/
def streetSources : List Source :=
  [⟨.json, "orders.json", Utf8.encode ("\x7b\"table_name\": \"orders\", \"columns\": [" ++
      "\x7b\"table_name\": \"orders\", \"column_name\": \"straße\", " ++
      "\"data_type\": \"INT\"\x7d]\x7d")⟩,
    ⟨.sql, "items.sql", Utf8.encode "CREATE TABLE items (straße BIGINT)"⟩]

/-- The occurrences in the two sources. -/
def streetOccurrences : Option (List Occurrence) :=
  (Snapshot.ofSources "tsql" streetSources).1.toOption.map fun s =>
    Settings.standard.occurrences s.tables

/-- The street of the document and that of the script come under different names, and nothing is
reported, although the types differ. -/
theorem declared_described_strasse :
    streetOccurrences.map (fun os => (os.map fun o => (o.name, o.signature),
        (nameGroups os).map Prod.fst, (mismatchedColumns os).map Offense.name)) =
      some ([("straße", "INT"), ("STRASSE", "BIGINT")], ["straße", "strasse"], []) := by
  decide +kernel

end ColumnLint
