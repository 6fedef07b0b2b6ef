import ColumnLint.Catalog
import ColumnLint.Exclusion
import Mathlib.Data.List.Forall2
import Mathlib.Data.List.Induction

/-!
# How the columns of a table evolve

Changes act on the columns of a table one after another.  The rules of a single change are stated
beside the function (`Sql.TableChange.Evolves`), and a run follows the rules from change to change
(`Sql.TableChange.evolvesAll_iff`).

Over a run no column depends on those beside it: what becomes of it is settled by the changes alone
(`Sql.TableChange.fates`).  So the columns at the end are what is left of the first ones, in order,
and behind them what is left of the added ones (`Sql.TableChange.columns_changeAll_eq`).  Nothing
that stays loses its place number, its owner or the rules that it suppresses
(`Sql.TableChange.keeps_of_fates`).
-/

namespace ColumnLint

open ColumnLint.Text

variable {t : Table} {c c' : Column} {cs : List Column}

/-! ### Tables after changes -/

/-- The table after a change. -/
def Table.change (t : Table) (change : Sql.TableChange) : Table :=
  { t with columns := change.apply t }

/-- The table after changes, one after another. -/
def Table.changeAll (t : Table) (changes : List Sql.TableChange) : Table :=
  changes.foldl Table.change t

@[simp] theorem Table.changeAll_nil (t : Table) : t.changeAll [] = t := rfl

theorem Table.changeAll_cons (t : Table) (change : Sql.TableChange)
    (changes : List Sql.TableChange) :
    t.changeAll (change :: changes) = (t.change change).changeAll changes := rfl

theorem Table.changeAll_concat (t : Table) (changes : List Sql.TableChange)
    (change : Sql.TableChange) :
    t.changeAll (changes ++ [change]) = (t.changeAll changes).change change := by
  rw [changeAll, List.foldl_append]
  rfl

/-- Changes concern the columns only. -/
theorem Table.changeAll_eq (t : Table) (changes : List Sql.TableChange) :
    t.changeAll changes = { t with columns := Sql.TableChange.applyAll changes t } := by
  have hname : ∀ changes : List Sql.TableChange, ∃ columns,
      t.changeAll changes = { t with columns := columns } := fun changes => by
    induction changes using List.reverseRecOn with
    | nil => exact ⟨t.columns, rfl⟩
    | append_singleton changes change ih =>
      obtain ⟨columns, h⟩ := ih
      rw [changeAll_concat, h]
      exact ⟨_, rfl⟩
  obtain ⟨columns, h⟩ := hname changes
  have hcolumns : columns = Sql.TableChange.applyAll changes t := congrArg Table.columns h.symm
  rw [h, hcolumns]

namespace Sql.TableChange

variable {change : TableChange} {changes : List TableChange}

/-! ### Single changes -/

/-- A column after a renaming. -/
def renamed (old new : String) (c : Column) : Column :=
  if upper c.name = upper old then { c with name := upper new } else c

/-- A column after an alteration. -/
def altered (name : String) (type : Option DeclaredType) (nullable : Option Bool) (c : Column) :
    Column :=
  if upper c.name = upper name then
    { c with
      type := (type.map (·.base)).getD c.type
      params := (type.map (·.params)).getD c.params
      nullable := nullable.getD c.nullable }
  else c

theorem columns_addColumn (t : Table) (c : ColumnDefinition) (ifAbsent : Bool) :
    (t.change (.addColumn c ifAbsent)).columns =
      if c.name = "" then t.columns
      else t.columns ++ [c.toColumn t.database t.schema t.name (t.columns.length + 1)] := rfl

theorem columns_dropColumns (t : Table) (names : List String) :
    (t.change (.dropColumns names)).columns =
      t.columns.filter fun c => upper c.name ∉ names.map upper := by
  refine List.filter_congr fun c _ => ?_
  rw [List.contains_eq_mem, decide_not]

theorem columns_renameColumn (t : Table) (old new : String) :
    (t.change (.renameColumn old new)).columns = t.columns.map (renamed old new) := by
  refine List.map_congr_left fun c _ => ?_
  simp only [isNamed, decide_eq_true_eq, renamed]

theorem columns_alterColumn (t : Table) (name : String) (type : Option DeclaredType)
    (nullable : Option Bool) :
    (t.change (.alterColumn name type nullable)).columns =
      t.columns.map (altered name type nullable) := by
  refine List.map_congr_left fun c _ => ?_
  simp only [isNamed, decide_eq_true_eq, altered]

theorem columns_other (t : Table) : (t.change .other).columns = t.columns := rfl

/-! ### Rules -/

/-- What a renaming makes of a column. -/
structure Renames (old new : String) (c c' : Column) : Prop where
  named : upper c.name = upper old → c' = { c with name := upper new }
  other : upper c.name ≠ upper old → c' = c

/-- What an alteration makes of a column.  A new type brings its parameters along. -/
structure Alters (name : String) (type : Option DeclaredType) (nullable : Option Bool)
    (c c' : Column) : Prop where
  retyped : upper c.name = upper name → ∀ new, type = some new →
    c'.type = new.base ∧ c'.params = new.params
  typeKept : type = none → c'.type = c.type ∧ c'.params = c.params
  told : upper c.name = upper name → ∀ b, nullable = some b → c'.nullable = b
  nullableKept : nullable = none → c'.nullable = c.nullable
  rest : { c' with type := c.type, params := c.params, nullable := c.nullable } = c
  other : upper c.name ≠ upper name → c' = c

/-- The rules by which a change makes other columns of those of a table. -/
inductive Evolves (t : Table) : TableChange → List Column → Prop
  /-- A column with a name is added at the end. -/
  | added {c : ColumnDefinition} (ifAbsent : Bool) (hname : c.name ≠ "") :
      Evolves t (.addColumn c ifAbsent)
        (t.columns ++ [⟨t.database, t.schema, t.name, upper c.name, c.type.base, c.type.params,
          c.nullable, t.columns.length + 1, c.ignored⟩])
  /-- What has no name is no column. -/
  | unnamed {c : ColumnDefinition} (ifAbsent : Bool) (hname : c.name = "") :
      Evolves t (.addColumn c ifAbsent) t.columns
  /-- The named columns are removed, and the others stay in order. -/
  | dropped (names : List String) :
      Evolves t (.dropColumns names) (t.columns.filter fun c => upper c.name ∉ names.map upper)
  | renamed {old new : String} {cs : List Column}
      (h : List.Forall₂ (Renames old new) t.columns cs) : Evolves t (.renameColumn old new) cs
  | altered {name : String} {type : Option DeclaredType} {nullable : Option Bool}
      {cs : List Column} (h : List.Forall₂ (Alters name type nullable) t.columns cs) :
      Evolves t (.alterColumn name type nullable) cs
  /-- A change of another sort does not concern columns. -/
  | other : Evolves t .other t.columns

/-- The rules for changes one after another. -/
inductive EvolvesAll : Table → List TableChange → List Column → Prop
  | nil (t : Table) : EvolvesAll t [] t.columns
  | cons {t : Table} {change : TableChange} {changes : List TableChange} {mid cs : List Column}
      (h : Evolves t change mid) (hrest : EvolvesAll { t with columns := mid } changes cs) :
      EvolvesAll t (change :: changes) cs

/-- A rule that settles each column settles the list. -/
theorem forall₂_iff_eq_map {R : Column → Column → Prop} {f : Column → Column}
    (h : ∀ c c', R c c' ↔ c' = f c) {cs cs' : List Column} :
    List.Forall₂ R cs cs' ↔ cs' = cs.map f := by
  have hR : R = fun c c' => f c = c' := by
    funext c c'
    rw [h, eq_iff_iff, eq_comm]
  rw [hR, ← List.forall₂_map_left_iff, List.forall₂_eq_eq_eq, eq_comm]

theorem renames_iff (old new : String) (c c' : Column) :
    Renames old new c c' ↔ c' = renamed old new c := by
  unfold renamed
  constructor
  · intro h
    split_ifs with hname
    · exact h.named hname
    · exact h.other hname
  · rintro rfl
    exact ⟨fun hname => if_pos hname, fun hname => if_neg hname⟩

theorem alters_iff (name : String) (type : Option DeclaredType) (nullable : Option Bool)
    (c c' : Column) : Alters name type nullable c c' ↔ c' = altered name type nullable c := by
  unfold altered
  constructor
  · intro h
    split_ifs with hname
    · have htype : c'.type = (type.map (·.base)).getD c.type ∧
          c'.params = (type.map (·.params)).getD c.params := by
        cases type with
        | none => exact h.typeKept rfl
        | some new => exact h.retyped hname new rfl
      have hnullable : c'.nullable = nullable.getD c.nullable := by
        cases nullable with
        | none => exact h.nullableKept rfl
        | some b => exact h.told hname b rfl
      rw [← htype.1, ← htype.2, ← hnullable, ← h.rest]
    · exact h.other hname
  · rintro rfl
    split_ifs with hname
    · refine ⟨?_, ?_, ?_, ?_, rfl, fun hne => absurd hname hne⟩
      · rintro - new rfl
        exact ⟨rfl, rfl⟩
      · rintro rfl
        exact ⟨rfl, rfl⟩
      · rintro - b rfl
        rfl
      · rintro rfl
        rfl
    · exact ⟨fun h => absurd h hname, fun _ => ⟨rfl, rfl⟩, fun h => absurd h hname, fun _ => rfl,
        rfl, fun _ => rfl⟩

theorem forall₂_renames_iff {old new : String} {cs' : List Column} :
    List.Forall₂ (Renames old new) cs cs' ↔ cs' = cs.map (renamed old new) :=
  forall₂_iff_eq_map (renames_iff old new)

theorem forall₂_alters_iff {name : String} {type : Option DeclaredType} {nullable : Option Bool}
    {cs' : List Column} :
    List.Forall₂ (Alters name type nullable) cs cs' ↔ cs' = cs.map (altered name type nullable) :=
  forall₂_iff_eq_map (alters_iff name type nullable)

/-- The rules settle what a change makes of a table. -/
theorem evolves_iff : Evolves t change cs ↔ cs = (t.change change).columns := by
  constructor
  · intro h
    cases h with
    | added ifAbsent hname =>
      rw [columns_addColumn, if_neg hname]
      rfl
    | unnamed ifAbsent hname => rw [columns_addColumn, if_pos hname]
    | dropped names => rw [columns_dropColumns]
    | renamed h => rw [columns_renameColumn, forall₂_renames_iff.mp h]
    | altered h => rw [columns_alterColumn, forall₂_alters_iff.mp h]
    | other => rfl
  · rintro rfl
    cases change with
    | addColumn c ifAbsent =>
      rw [columns_addColumn]
      split_ifs with hname
      · exact .unnamed ifAbsent hname
      · exact .added ifAbsent hname
    | dropColumns names =>
      rw [columns_dropColumns]
      exact .dropped names
    | renameColumn old new =>
      exact .renamed (forall₂_renames_iff.mpr (columns_renameColumn t old new))
    | alterColumn name type nullable =>
      exact .altered (forall₂_alters_iff.mpr (columns_alterColumn t name type nullable))
    | other => exact .other

/-- The rules settle what changes make of a table. -/
theorem evolvesAll_iff : EvolvesAll t changes cs ↔ cs = (t.changeAll changes).columns := by
  constructor
  · intro h
    induction h with
    | nil t => rfl
    | cons h _ ih =>
      rw [evolves_iff] at h
      rw [ih, h]
      rfl
  · rintro rfl
    induction changes generalizing t with
    | nil => exact .nil t
    | cons change changes ih => exact .cons (evolves_iff.mpr rfl) ih

/-! ### Columns on their own -/

/-- What a change leaves of a column, unless it drops it. -/
def fate (change : TableChange) (c : Column) : Option Column :=
  match change with
  | .dropColumns names => if upper c.name ∉ names.map upper then some c else none
  | .renameColumn old new => some (renamed old new c)
  | .alterColumn name type nullable => some (altered name type nullable c)
  | _ => some c

/-- What changes leave of a column, unless one of them drops it. -/
def fates (changes : List TableChange) (c : Column) : Option Column :=
  changes.foldlM (fun c change => change.fate c) c

/-- The columns that a change adds to a table. -/
def added (t : Table) : TableChange → List Column
  | .addColumn c _ =>
    if c.name = "" then [] else [c.toColumn t.database t.schema t.name (t.columns.length + 1)]
  | _ => []

/-- What is left at the end of the columns that changes add. -/
def addedAll : Table → List TableChange → List Column
  | _, [] => []
  | t, change :: changes =>
    (change.added t).filterMap (fates changes) ++ addedAll (t.change change) changes

theorem fates_nil : fates [] = some := rfl

theorem fates_cons : fates (change :: changes) = fun c => (change.fate c).bind (fates changes) := by
  funext c
  rw [fates, List.foldlM_cons]
  rfl

/-- A change leaves something of each column, or drops it, and adds others behind. -/
theorem columns_change (t : Table) (change : TableChange) :
    (t.change change).columns = t.columns.filterMap change.fate ++ change.added t := by
  cases change with
  | addColumn c ifAbsent =>
    have hfate : (addColumn c ifAbsent).fate = some := rfl
    rw [columns_addColumn, hfate, List.filterMap_some, added]
    split_ifs
    · rw [List.append_nil]
    · rfl
  | dropColumns names =>
    have hfate : (dropColumns names).fate =
        Option.guard fun c => decide (upper c.name ∉ names.map upper) := by
      funext c
      simp only [fate, Option.guard, decide_eq_true_eq]
    rw [columns_dropColumns, hfate, List.filterMap_eq_filter]
    exact (List.append_nil _).symm
  | renameColumn old new =>
    have hfate : (renameColumn old new).fate = some ∘ renamed old new := rfl
    rw [columns_renameColumn, hfate, List.filterMap_eq_map]
    exact (List.append_nil _).symm
  | alterColumn name type nullable =>
    have hfate : (alterColumn name type nullable).fate = some ∘ altered name type nullable := rfl
    rw [columns_alterColumn, hfate, List.filterMap_eq_map]
    exact (List.append_nil _).symm
  | other =>
    have hfate : other.fate = some := rfl
    rw [columns_other, hfate, List.filterMap_some]
    exact (List.append_nil _).symm

/-- After changes there is what they leave of the first columns, and behind it what they leave of
the added ones. -/
theorem columns_changeAll_eq (t : Table) (changes : List TableChange) :
    (t.changeAll changes).columns = t.columns.filterMap (fates changes) ++ addedAll t changes := by
  induction changes generalizing t with
  | nil => simp [fates_nil, addedAll]
  | cons change changes ih =>
    rw [Table.changeAll_cons, ih, columns_change, List.filterMap_append, List.filterMap_filterMap,
      fates_cons, addedAll, List.append_assoc]

/-- What no change touches of a column: its owner, its place number and the rules that it
suppresses. -/
structure Keeps (c c' : Column) : Prop where
  database : c'.database = c.database
  schema : c'.schema = c.schema
  table : c'.table = c.table
  ordinal : c'.ordinal = c.ordinal
  ignored : c'.ignored = c.ignored

theorem Keeps.refl (c : Column) : Keeps c c := ⟨rfl, rfl, rfl, rfl, rfl⟩

theorem Keeps.trans {c'' : Column} (h : Keeps c c') (h' : Keeps c' c'') : Keeps c c'' :=
  ⟨h'.database.trans h.database, h'.schema.trans h.schema, h'.table.trans h.table,
    h'.ordinal.trans h.ordinal, h'.ignored.trans h.ignored⟩

theorem keeps_renamed (old new : String) (c : Column) : Keeps c (renamed old new c) := by
  unfold renamed
  split_ifs
  · exact ⟨rfl, rfl, rfl, rfl, rfl⟩
  · exact .refl c

theorem keeps_altered (name : String) (type : Option DeclaredType) (nullable : Option Bool)
    (c : Column) : Keeps c (altered name type nullable c) := by
  unfold altered
  split_ifs
  · exact ⟨rfl, rfl, rfl, rfl, rfl⟩
  · exact .refl c

theorem keeps_of_fate (h : change.fate c = some c') : Keeps c c' := by
  cases change with
  | addColumn | other =>
    obtain rfl := Option.some.inj h
    exact .refl c
  | dropColumns names =>
    obtain ⟨-, h⟩ := Option.ite_none_right_eq_some.mp h
    obtain rfl := Option.some.inj h
    exact .refl c
  | renameColumn old new =>
    obtain rfl := Option.some.inj h
    exact keeps_renamed old new c
  | alterColumn name type nullable =>
    obtain rfl := Option.some.inj h
    exact keeps_altered name type nullable c

theorem keeps_of_fates (h : fates changes c = some c') : Keeps c c' := by
  induction changes generalizing c with
  | nil =>
    obtain rfl := Option.some.inj h
    exact .refl c
  | cons change changes ih =>
    rw [fates_cons, Option.bind_eq_some_iff] at h
    obtain ⟨mid, hmid, hrest⟩ := h
    exact (keeps_of_fate hmid).trans (ih hrest)

/-- A column suppresses the same rules after changes. -/
theorem Keeps.suppresses (h : Keeps c c') (rule : Option String) :
    c'.suppresses rule = c.suppresses rule := by
  unfold Column.suppresses
  rw [h.ignored]

end Sql.TableChange

end ColumnLint
