import ColumnLint.Proofs.Catalog.Chain
import Mathlib.Data.List.NodupEquivFin
import Mathlib.Order.WellFounded

/-!
# Position numbers

The columns of a created table are numbered from 1, and no change gives a column another number.  A
column that is added gets the number that follows the count of those that are there by then
(`Table.positions_change`).  It is larger than those before it iff these count up from 1
(`pairwise_concat_iff`), which they do not once a column before the end has been dropped.

So the numbers of a table increase throughout a run iff every addition finds them counting up from
1, which is so if nothing is ever dropped (`Catalog.positions_chain`).  A table that loses a column
and then gets another one may number two columns the same (`Catalog.positions_dropped`).
-/

namespace ColumnLint

variable {t : Table} {l l' : List Int} {change : Sql.TableChange}
  {changes : List Sql.TableChange}

/-! ### Lists of numbers -/

/-- Whether numbers count up from 1. -/
def Consecutive (l : List Int) : Prop :=
  ∀ i (h : i < l.length), l[i] = i + 1

instance (l : List Int) : Decidable (Consecutive l) :=
  inferInstanceAs (Decidable (∀ i (h : i < l.length), l[i] = i + 1))

/-- Whether no number is smaller than the place where it stands, counted from 1. -/
def Advanced (l : List Int) : Prop :=
  ∀ i (h : i < l.length), i + 1 ≤ l[i]

/-- What holds at each place of a list with an element at its end. -/
theorem forall_getElem_concat {P : Nat → Int → Prop} {a : Int} :
    (∀ i (h : i < (l ++ [a]).length), P i (l ++ [a])[i]) ↔
      (∀ i (h : i < l.length), P i l[i]) ∧ P l.length a := by
  constructor
  · intro h
    refine ⟨fun i hi => ?_, ?_⟩
    · have hP := h i (by rw [List.length_append]; omega)
      rwa [List.getElem_append_left hi] at hP
    · have hP := h l.length (by simp)
      rwa [List.getElem_concat_length rfl] at hP
  · rintro ⟨h, ha⟩ i hi
    obtain hlt | heq : i < l.length ∨ i = l.length := by
      rw [List.length_append, List.length_singleton] at hi
      omega
    · rw [List.getElem_append_left hlt]
      exact h i hlt
    · subst heq
      rwa [List.getElem_concat_length rfl]

theorem consecutive_concat {a : Int} :
    Consecutive (l ++ [a]) ↔ Consecutive l ∧ a = l.length + 1 :=
  forall_getElem_concat (P := fun i a => a = i + 1)

theorem advanced_concat {a : Int} : Advanced (l ++ [a]) ↔ Advanced l ∧ l.length + 1 ≤ a :=
  forall_getElem_concat (P := fun i a => i + 1 ≤ a)

theorem Consecutive.advanced (h : Consecutive l) : Advanced l :=
  fun i hi => (h i hi).ge

/-- Numbers that are left when others are removed come to places further ahead. -/
theorem Advanced.sublist (h : Advanced l') (hsub : l.Sublist l') : Advanced l := by
  obtain ⟨f, hf⟩ := List.sublist_iff_exists_orderEmbedding_getElem?_eq.mp hsub
  intro i hi
  have hmoved : l'[f i]? = some l[i] := (hf i).symm.trans (List.getElem?_eq_getElem hi)
  obtain ⟨hplace, heq⟩ := List.getElem?_eq_some_iff.mp hmoved
  have hle : i ≤ f i := StrictMono.le_apply f.strictMono
  have hnumber := h (f i) hplace
  rw [heq] at hnumber
  omega

/-- Another number that follows the count of those before keeps numbers increasing iff these count
up from 1. -/
theorem pairwise_concat_iff (h : Advanced l) :
    (l ++ [(l.length : Int) + 1]).Pairwise (· < ·) ↔ Consecutive l := by
  induction l using List.reverseRecOn with
  | nil =>
    refine ⟨fun _ i hi => absurd hi (Nat.not_lt_zero i), fun _ => List.pairwise_singleton ..⟩
  | append_singleton l a ih =>
    obtain ⟨hadvanced, ha⟩ := advanced_concat.mp h
    rw [consecutive_concat, ← ih hadvanced, List.length_append, List.length_singleton]
    constructor
    · intro hpairwise
      rw [List.pairwise_append] at hpairwise
      obtain ⟨hbefore, -, hlast⟩ := hpairwise
      -- The last number lies between its place and the new number.
      have hlt := hlast a (by simp) _ (List.mem_singleton_self _)
      push_cast at hlt
      obtain rfl : a = l.length + 1 := by omega
      exact ⟨hbefore, rfl⟩
    · rintro ⟨hbefore, rfl⟩
      rw [List.pairwise_append]
      refine ⟨hbefore, List.pairwise_singleton .., fun a ha b hb => ?_⟩
      rw [List.mem_singleton.mp hb]
      push_cast
      rcases List.mem_append.mp ha with ha | ha
      · have hlt := (List.pairwise_append.mp hbefore).2.2 a ha _ (List.mem_singleton_self _)
        omega
      · rw [List.mem_singleton.mp ha]
        omega

theorem Consecutive.pairwise (h : Consecutive l) : l.Pairwise (· < ·) :=
  (List.pairwise_append.mp ((pairwise_concat_iff h.advanced).mpr h)).1

/-! ### Tables -/

/-- The numbers of the columns, in their order. -/
def Table.positions (t : Table) : List Int :=
  t.columns.map Column.ordinal

/-- Whether the numbers of the columns increase. -/
def Table.Increasing (t : Table) : Prop :=
  t.positions.Pairwise (· < ·)

instance (t : Table) : Decidable t.Increasing :=
  inferInstanceAs (Decidable (t.positions.Pairwise (· < ·)))

/-- Columns that keep what no change touches keep their numbers. -/
theorem map_ordinal_map {f : Column → Column} (h : ∀ c, Sql.TableChange.Keeps c (f c))
    (cs : List Column) : (cs.map f).map Column.ordinal = cs.map Column.ordinal := by
  rw [List.map_map]
  exact List.map_congr_left fun c _ => (h c).ordinal

/-- A change adds a column with the next number, or it removes some columns, which only the dropping
of columns does. -/
theorem Table.positions_change (t : Table) (change : Sql.TableChange) :
    change.added t ≠ [] ∧
      (t.change change).positions = t.positions ++ [(t.positions.length : Int) + 1] ∨
    change.added t = [] ∧ (t.change change).positions.Sublist t.positions ∧
      ((∀ names, change ≠ .dropColumns names) → (t.change change).positions = t.positions) := by
  unfold positions
  cases change with
  | addColumn c ifAbsent =>
    rw [Sql.TableChange.columns_addColumn, Sql.TableChange.added]
    split_ifs with hname
    · exact .inr ⟨rfl, List.Sublist.refl _, fun _ => rfl⟩
    · rw [List.map_append, List.length_map]
      exact .inl ⟨List.cons_ne_nil _ _, rfl⟩
  | dropColumns names =>
    rw [Sql.TableChange.columns_dropColumns]
    exact .inr ⟨rfl, List.filter_sublist.map _, fun h => absurd rfl (h names)⟩
  | renameColumn old new =>
    rw [Sql.TableChange.columns_renameColumn,
      map_ordinal_map (Sql.TableChange.keeps_renamed old new)]
    exact .inr ⟨rfl, List.Sublist.refl _, fun _ => rfl⟩
  | alterColumn name type nullable =>
    rw [Sql.TableChange.columns_alterColumn,
      map_ordinal_map (Sql.TableChange.keeps_altered name type nullable)]
    exact .inr ⟨rfl, List.Sublist.refl _, fun _ => rfl⟩
  | other => exact .inr ⟨rfl, List.Sublist.refl _, fun _ => rfl⟩

theorem Table.advanced_change (h : Advanced t.positions) (change : Sql.TableChange) :
    Advanced (t.change change).positions := by
  obtain ⟨-, hpositions⟩ | ⟨-, hsub, -⟩ := t.positions_change change
  · rw [hpositions]
    exact advanced_concat.mpr ⟨h, le_rfl⟩
  · exact h.sublist hsub

/-- Whether changes add a column only where the numbers count up from 1. -/
def Table.AddsInLine (t : Table) : List Sql.TableChange → Prop
  | [] => True
  | change :: changes =>
    (change.added t ≠ [] → Consecutive t.positions) ∧ (t.change change).AddsInLine changes

instance Table.decidableAddsInLine : ∀ t changes, Decidable (Table.AddsInLine t changes)
  | _, [] => inferInstanceAs (Decidable True)
  | t, change :: changes =>
    have := decidableAddsInLine (t.change change) changes
    inferInstanceAs (Decidable ((change.added t ≠ [] → Consecutive t.positions) ∧ _))

/-- An increasing table stays so under a change iff that adds nothing, or adds it in line. -/
theorem Table.increasing_change_iff (hadvanced : Advanced t.positions) (h : t.Increasing) :
    (t.change change).Increasing ↔ (change.added t ≠ [] → Consecutive t.positions) := by
  unfold Increasing at h ⊢
  obtain ⟨hadded, hpositions⟩ | ⟨hadded, hsub, -⟩ := t.positions_change change
  · rw [hpositions, pairwise_concat_iff hadvanced]
    exact ⟨fun h _ => h, fun h => h hadded⟩
  · exact iff_of_true (h.sublist hsub) fun hne => absurd hadded hne

/-- The numbers increase throughout changes iff they do before and each addition is in line. -/
theorem Table.addsInLine_iff (hadvanced : Advanced t.positions) :
    t.Increasing ∧ t.AddsInLine changes ↔
      ∀ before, before <+: changes → (t.changeAll before).Increasing := by
  induction changes generalizing t with
  | nil =>
    constructor
    · rintro ⟨h, -⟩ before hbefore
      rw [List.prefix_nil.mp hbefore]
      exact h
    · exact fun h => ⟨h [] (List.nil_prefix), trivial⟩
  | cons change changes ih =>
    have hrest := ih (t.advanced_change hadvanced change)
    constructor
    · rintro ⟨h, hadd, hadds⟩ before hbefore
      cases before with
      | nil => exact h
      | cons first before =>
        obtain ⟨rfl, hprefix⟩ := List.cons_prefix_cons.mp hbefore
        have hchange := (increasing_change_iff hadvanced h).mpr hadd
        exact hrest.mp ⟨hchange, hadds⟩ before hprefix
    · intro h
      have hfirst : t.Increasing := h [] (List.nil_prefix)
      obtain ⟨hchange, hadds⟩ := hrest.mpr fun before hbefore =>
        h (change :: before) (List.cons_prefix_cons.mpr ⟨rfl, hbefore⟩)
      exact ⟨hfirst, (increasing_change_iff hadvanced hfirst).mp hchange, hadds⟩

/-! ### Runs -/

/-- The columns of a created table are numbered from 1. -/
theorem Sql.consecutive_tableOf (key : TableKey) (definitions : List ColumnDefinition) :
    Consecutive (tableOf key definitions).positions := by
  intro i hi
  simp [Table.positions, tableOf, ColumnDefinition.toColumn]

namespace Catalog

variable {c : Catalog} {d : Sql.Dialect} {s : Sql.Statement}
  {ss : List (Sql.Dialect × Sql.Statement)}

/-- Whether each statement of a run adds columns only where the numbers count up from 1. -/
def AddsInLine (c : Catalog) (ss : List (Sql.Dialect × Sql.Statement)) : Prop :=
  ∀ before s after, ss = before ++ s :: after → ∀ t ∈ (c.run before).tables,
    (c.run before).altered? s.1 s.2 = some t.key → t.AddsInLine s.2.changes

theorem addsInLine_nil (c : Catalog) : c.AddsInLine [] := by
  intro before s after h
  exact absurd h.symm (List.append_ne_nil_of_right_ne_nil _ (List.cons_ne_nil _ _))

theorem addsInLine_cons (c : Catalog) (s : Sql.Dialect × Sql.Statement)
    (ss : List (Sql.Dialect × Sql.Statement)) :
    c.AddsInLine (s :: ss) ↔
      (∀ t ∈ c.tables, c.altered? s.1 s.2 = some t.key → t.AddsInLine s.2.changes) ∧
        (c.apply s.1 s.2).1.AddsInLine ss := by
  constructor
  · intro h
    refine ⟨h [] s ss rfl, fun before s' after hss => h (s :: before) s' after ?_⟩
    rw [hss]
    rfl
  · rintro ⟨hfirst, hrest⟩ before s' after h
    obtain ⟨rfl, hcons⟩ | ⟨before, rfl, hss⟩ := List.cons_eq_append_iff.mp h
    · obtain ⟨rfl, -⟩ := List.cons.inj hcons
      exact hfirst
    · exact hrest before s' after hss

instance decidableAddsInLine : ∀ c ss, Decidable (AddsInLine c ss)
  | c, [] => .isTrue (addsInLine_nil c)
  | c, s :: ss =>
    have := decidableAddsInLine (c.apply s.1 s.2).1 ss
    decidable_of_iff _ (addsInLine_cons c s ss).symm

theorem consecutive_of_created? {t : Table} (h : s.created? d = some t) :
    Consecutive t.positions := by
  obtain ⟨n, columns, -, rfl⟩ := eq_tableOf_of_created? h
  exact Sql.consecutive_tableOf _ columns

theorem advanced_run (hc : ∀ t ∈ c.tables, Advanced t.positions) :
    ∀ t ∈ (c.run ss).tables, Advanced t.positions :=
  forall_mem_run hc (fun _ _ _ h => (consecutive_of_created? h).advanced)
    fun _ _ change _ _ h => Table.advanced_change h change

/-- The numbers stay increasing in a run whose additions are in line. -/
theorem increasing_run (hadvanced : ∀ t ∈ c.tables, Advanced t.positions)
    (hc : ∀ t ∈ c.tables, t.Increasing) (hadds : c.AddsInLine ss) :
    ∀ t ∈ (c.run ss).tables, t.Increasing := by
  induction ss generalizing c with
  | nil => exact hc
  | cons s ss ih =>
    obtain ⟨hfirst, hrest⟩ := (addsInLine_cons c s ss).mp hadds
    have hstep : ∀ t ∈ (c.run [s]).tables, Advanced t.positions := advanced_run hadvanced
    refine ih hstep (fun t ht => ?_) hrest
    obtain hnew | hold | ⟨u, hu, hkey, rfl⟩ := mem_apply ht
    · exact (consecutive_of_created? hnew).pairwise
    · exact hc t hold
    · exact (Table.addsInLine_iff (hadvanced u hu)).mp ⟨hc u hu, hfirst u hu hkey⟩ _
        (List.prefix_refl _)

/-- Whether the numbers of each table that a run alters increase before the alteration and after
each of its changes. -/
def IncreasesThroughout (c : Catalog) (ss : List (Sql.Dialect × Sql.Statement)) : Prop :=
  ∀ before s after, ss = before ++ s :: after → ∀ t ∈ (c.run before).tables,
    (c.run before).altered? s.1 s.2 = some t.key →
      ∀ changes, changes <+: s.2.changes → (t.changeAll changes).Increasing

theorem addsInLine_iff (hadvanced : ∀ t ∈ c.tables, Advanced t.positions)
    (hc : ∀ t ∈ c.tables, t.Increasing) : c.AddsInLine ss ↔ c.IncreasesThroughout ss := by
  constructor
  · rintro h before s after rfl t ht hkey
    have hbefore : c.AddsInLine before := by
      rintro before' s' after' rfl
      exact h before' s' (after' ++ s :: after) (by rw [List.append_assoc, List.cons_append])
    exact (Table.addsInLine_iff (advanced_run hadvanced t ht)).mp
      ⟨increasing_run hadvanced hc hbefore t ht, h before s after rfl t ht hkey⟩
  · intro h before s after hss t ht hkey
    exact ((Table.addsInLine_iff (advanced_run hadvanced t ht)).mpr
      (h before s after hss t ht hkey)).2

/-- The numbers count up from 1 as long as nothing is dropped. -/
theorem consecutive_run (hc : ∀ t ∈ c.tables, Consecutive t.positions)
    (hdrops : ∀ s ∈ ss, ∀ names, .dropColumns names ∉ s.2.changes) :
    ∀ t ∈ (c.run ss).tables, Consecutive t.positions := by
  refine forall_mem_run hc (fun _ _ _ h => consecutive_of_created? h) ?_
  intro s hs change hchange t ht
  obtain ⟨-, hpositions⟩ | ⟨-, -, hpositions⟩ := t.positions_change change
  · rw [hpositions]
    exact consecutive_concat.mpr ⟨ht, rfl⟩
  · rw [hpositions fun names hdrop => hdrops s hs names (hdrop ▸ hchange)]
    exact ht

/-- The numbers of the columns in scripts that start from nothing.  No number is smaller than its
place.  The numbers increase throughout, and so in the tables at the end, iff all additions are in
line.  They count up from 1 if no columns are dropped. -/
theorem positions_chain (preparations : List (String × Sql.Preparation))
    (scripts : List (String × String)) :
    (∀ t ∈ chain preparations scripts, Advanced t.positions) ∧
    (empty.AddsInLine (statementsOf preparations scripts) ↔
      empty.IncreasesThroughout (statementsOf preparations scripts)) ∧
    (empty.AddsInLine (statementsOf preparations scripts) →
      ∀ t ∈ chain preparations scripts, t.Increasing) ∧
    ((∀ s ∈ statementsOf preparations scripts, ∀ names, .dropColumns names ∉ s.2.changes) →
      ∀ t ∈ chain preparations scripts, Consecutive t.positions) := by
  have hempty : ∀ {P : Table → Prop}, ∀ t ∈ empty.tables, P t :=
    fun t ht => absurd ht List.not_mem_nil
  rw [chain_eq]
  exact ⟨advanced_run hempty, addsInLine_iff hempty hempty, increasing_run hempty hempty,
    consecutive_run hempty⟩

/-- Scripts that create a table, drop its last column and give it another one. -/
def refillingScripts : List (String × String) :=
  [("tsql", "CREATE TABLE t (a INT, b INT); ALTER TABLE t DROP COLUMN b"),
    ("tsql", "ALTER TABLE t ADD x INT")]

/-- Their statements. -/
def refillingStatements : List (Sql.Dialect × Sql.Statement) :=
  let t : Sql.TableName := ⟨none, none, "t"⟩
  let int (name : String) : Sql.ColumnDefinition := ⟨name, ⟨some "INT", []⟩, true, []⟩
  [(.tsql, .createTable t [int "a", int "b"] false), (.tsql, .alterTable t [.dropColumns ["b"]]),
    (.tsql, .alterTable t [.addColumn (int "x") false])]

/-- A script that creates a table and gives it another column. -/
def growingScripts : List (String × String) :=
  [("mysql", "CREATE TABLE t (a INT); ALTER TABLE t ADD COLUMN b INT")]

/-- A column may be dropped and another one added in line, and without drops all is in line. -/
theorem positions_chain_refilled :
    empty.AddsInLine (statementsOf Sql.standardPreparations refillingScripts) ∧
    empty.IncreasesThroughout (statementsOf Sql.standardPreparations refillingScripts) ∧
    (∀ t ∈ chain Sql.standardPreparations refillingScripts, Advanced t.positions ∧ t.Increasing) ∧
    (∀ s ∈ statementsOf Sql.standardPreparations growingScripts,
      ∀ names, .dropColumns names ∉ s.2.changes) ∧
    ∀ t ∈ chain Sql.standardPreparations growingScripts, Consecutive t.positions := by
  have hrefilling : statementsOf Sql.standardPreparations refillingScripts =
      refillingStatements := by
    decide +kernel
  have hadds : empty.AddsInLine (statementsOf Sql.standardPreparations refillingScripts) := by
    rw [hrefilling]
    decide +kernel
  have hgrowing : (statementsOf Sql.standardPreparations growingScripts).flatMap
      (·.2.changes) = [.addColumn ⟨"b", ⟨some "INT", []⟩, true, []⟩ false] := by
    decide +kernel
  have hdrops : ∀ s ∈ statementsOf Sql.standardPreparations growingScripts,
      ∀ names, .dropColumns names ∉ s.2.changes := by
    intro s hs names hdrop
    have hmem := List.mem_flatMap_of_mem (f := (·.2.changes)) hs hdrop
    rw [hgrowing, List.mem_singleton] at hmem
    cases hmem
  obtain ⟨hadvanced, hthroughout, hincreasing, -⟩ :=
    positions_chain Sql.standardPreparations refillingScripts
  obtain ⟨-, -, -, hconsecutive⟩ := positions_chain Sql.standardPreparations growingScripts
  exact ⟨hadds, hthroughout.mp hadds, fun t ht => ⟨hadvanced t ht, hincreasing hadds t ht⟩, hdrops,
    hconsecutive hdrops⟩

/-- A script that drops a column before the end and adds one. -/
def repeatingScripts : List (String × String) :=
  [("tsql", "CREATE TABLE t (a INT, b INT); ALTER TABLE t DROP COLUMN a; ALTER TABLE t ADD x INT")]

/-- The columns `B` and `X` of the table have one number. -/
theorem positions_dropped :
    (chain Sql.standardPreparations repeatingScripts).map
        (fun t => t.columns.map fun c => (c.name, c.ordinal)) = [[("B", 2), ("X", 2)]] ∧
      ¬ ∀ t ∈ chain Sql.standardPreparations repeatingScripts, t.Increasing := by
  decide +kernel

end Catalog

end ColumnLint
