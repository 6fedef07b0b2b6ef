import ColumnLint.Files.Tree
import ColumnLint.Proofs.Text.Pieces
import Mathlib.Data.List.Nodup

/-!
# Files of a tree and the ways to them

In a well-formed tree the members of a directory have names of their own, so every file of the tree
is listed once (`nodup_ways`) and under the names that lead down to it (`mem_files_iff`).

A path leads through well-formed trees only (`wellFormed_entryAt`).  Its empty parts and its points
lead nowhere, so they may be left out (`foldlM_step_filter`), and names behind a path lead down from
where it leads (`walk_append_names`).
-/

namespace ColumnLint.FileTree

open ColumnLint.Text

variable {t u root : FileTree} {place place' above : List FileTree} {name path : String}
  {names ps ps' : List String} {octets : List UInt8} {children : List (String × FileTree)}

/-! ### Well-formed trees -/

/-- Whether a text can be the name of a member of a directory. -/
def IsName (name : String) : Prop :=
  name ≠ "" ∧ name ≠ "." ∧ name ≠ ".." ∧ '/' ∉ name.toList

instance : DecidablePred IsName := fun _ => inferInstanceAs (Decidable (_ ∧ _ ∧ _ ∧ _))

/-- Whether the members of every directory have names, and no two the same one. -/
inductive WellFormed : FileTree → Prop
  | file (octets : List UInt8) : WellFormed (.file octets)
  | directory {children : List (String × FileTree)} (hnames : ∀ c ∈ children, IsName c.1)
      (hdistinct : (children.map Prod.fst).Nodup) (h : ∀ c ∈ children, WellFormed c.2) :
      WellFormed (.directory children)

/-- What the names lead down to, one directory after another. -/
def descend (t : FileTree) (names : List String) : Option FileTree :=
  names.foldlM child? t

theorem descend_nil (t : FileTree) : t.descend [] = some t := rfl

theorem descend_cons (t : FileTree) (name : String) (names : List String) :
    t.descend (name :: names) = (t.child? name).bind (descend · names) := rfl

theorem mem_of_child? (h : t.child? name = some u) :
    ∃ children, t = .directory children ∧ (name, u) ∈ children := by
  cases t with
  | file octets => exact nomatch h
  | directory children =>
    obtain ⟨before, after, hsplit, -⟩ := List.lookup_eq_some_iff.mp h
    exact ⟨children, rfl, hsplit ▸ List.mem_append_right _ (List.mem_cons_self ..)⟩

/-- Under distinct names every member is the one that its name leads to. -/
theorem child?_eq_some_iff (hdistinct : (children.map Prod.fst).Nodup) :
    (directory children).child? name = some u ↔ (name, u) ∈ children := by
  constructor
  · intro h
    obtain ⟨children', heq, hmem⟩ := mem_of_child? h
    exact directory.inj heq ▸ hmem
  · intro h
    obtain ⟨before, after, rfl⟩ := List.append_of_mem h
    refine List.lookup_eq_some_iff.mpr ⟨before, after, rfl, fun c hc => ?_⟩
    rw [List.map_append, List.map_cons] at hdistinct
    have hother : c.1 ≠ name := (List.nodup_append.mp hdistinct).2.2 _ (List.mem_map_of_mem hc) _
      (List.mem_cons_self ..)
    simpa using hother.symm

theorem WellFormed.members (h : (FileTree.directory children).WellFormed) :
    (∀ c ∈ children, IsName c.1) ∧ (children.map Prod.fst).Nodup ∧
      ∀ c ∈ children, c.2.WellFormed := by
  cases h with
  | directory hnames hdistinct h => exact ⟨hnames, hdistinct, h⟩

theorem WellFormed.child? (h : t.WellFormed) (hu : t.child? name = some u) :
    IsName name ∧ u.WellFormed := by
  obtain ⟨children, rfl, hmem⟩ := mem_of_child? hu
  cases h with
  | directory hnames _ h => exact ⟨hnames _ hmem, h _ hmem⟩

/-- What leads down in a well-formed tree are names. -/
theorem WellFormed.isName_of_descend (h : t.WellFormed) (hu : t.descend names = some u) :
    ∀ name ∈ names, IsName name := by
  induction names generalizing t with
  | nil => nofun
  | cons name names ih =>
    rw [descend_cons, Option.bind_eq_some_iff] at hu
    obtain ⟨v, hv, hu⟩ := hu
    obtain ⟨hname, hwell⟩ := h.child? hv
    exact List.forall_mem_cons.mpr ⟨hname, ih hwell hu⟩

/-- A member of a directory may be replaced under its name. -/
theorem WellFormed.replace (h : (FileTree.directory children).WellFormed) (hname : IsName name)
    (ht : t.WellFormed) :
    (FileTree.directory (children.map fun c => if c.1 = name then (name, t) else c)).WellFormed := by
  obtain ⟨hnames, hdistinct, hwells⟩ := h.members
  have hsame : (children.map fun c => if c.1 = name then (name, t) else c).map Prod.fst =
      children.map Prod.fst := by
    rw [List.map_map]
    refine List.map_congr_left fun c _ => ?_
    by_cases hc : c.1 = name
    · simp [hc]
    · simp [hc]
  refine .directory ?_ (hsame ▸ hdistinct) ?_
  all_goals
    intro c hc
    obtain ⟨c', hc', rfl⟩ := List.mem_map.mp hc
    split_ifs
  · exact hname
  · exact hnames c' hc'
  · exact ht
  · exact hwells c' hc'

/-- A directory may get another member under a new name. -/
theorem WellFormed.add (h : (FileTree.directory children).WellFormed) (hname : IsName name)
    (hnew : name ∉ children.map Prod.fst) (ht : t.WellFormed) :
    (FileTree.directory (children ++ [(name, t)])).WellFormed := by
  obtain ⟨hnames, hdistinct, hwells⟩ := h.members
  refine .directory ?_ ?_ ?_
  · exact List.forall_mem_append.mpr ⟨hnames, by simpa using hname⟩
  · rw [List.map_append]
    refine List.nodup_append.mpr ⟨hdistinct, by simp, fun other hother name' hname' => ?_⟩
    have hname' : name' = name := List.mem_singleton.mp hname'
    rintro rfl
    exact hnew (hname' ▸ hother)
  · exact List.forall_mem_append.mpr ⟨hwells, by simpa using ht⟩

/-- Putting something in under names keeps a tree well-formed. -/
theorem WellFormed.insert {leaf : FileTree} (ht : t.WellFormed) (hleaf : leaf.WellFormed)
    (hnames : ∀ name ∈ names, IsName name) : (t.insert names leaf).WellFormed := by
  induction names generalizing t with
  | nil => exact hleaf
  | cons name names ih =>
    obtain ⟨hname, hnames⟩ := List.forall_mem_cons.mp hnames
    -- A file that is in the way gives room to a directory.
    obtain ⟨children, hinsert, hwell⟩ : ∃ children : List (String × FileTree),
        t.insert (name :: names) leaf = (FileTree.directory children).insert (name :: names) leaf ∧
          (FileTree.directory children).WellFormed := by
      cases t with
      | file octets => exact ⟨[], rfl, .directory nofun .nil nofun⟩
      | directory children => exact ⟨children, rfl, ht⟩
    have hinner : (((children.lookup name).getD empty).insert names leaf).WellFormed := by
      refine ih ?_ hnames
      cases hchild : children.lookup name with
      | none => exact .directory nofun .nil nofun
      | some u => exact (hwell.child? hchild).2
    rw [hinsert, FileTree.insert]
    split_ifs with hany
    · exact hwell.replace hname hinner
    · exact hwell.add hname (by simpa using hany) hinner

/-! ### Files -/

theorem childFiles_eq_flatMap (children : List (String × FileTree)) :
    childFiles children = children.flatMap fun c => c.2.files.map fun f => (c.1 :: f.1, f.2) := by
  induction children with
  | nil => rw [childFiles, List.flatMap_nil]
  | cons c children ih => rw [childFiles, List.flatMap_cons, ih]

/-- The files of a tree are those that names lead down to. -/
theorem WellFormed.mem_files_iff (h : t.WellFormed) :
    (names, octets) ∈ t.files ↔ t.descend names = some (.file octets) := by
  induction names generalizing t with
  | nil =>
    rw [descend_nil, Option.some.injEq]
    cases t with
    | file octets' => simp [files, eq_comm]
    | directory children => simp [files, childFiles_eq_flatMap]
  | cons name names ih =>
    rw [descend_cons, Option.bind_eq_some_iff]
    cases h with
    | file octets' => simp [files, FileTree.child?]
    | @directory children hnames hdistinct h =>
      simp only [files, childFiles_eq_flatMap, List.mem_flatMap, List.mem_map, Prod.mk.injEq,
        List.cons.injEq, child?_eq_some_iff hdistinct]
      constructor
      · rintro ⟨⟨name', u⟩, hmem, ⟨names', octets'⟩, hfile, ⟨rfl, rfl⟩, rfl⟩
        exact ⟨u, hmem, (ih (h _ hmem)).mp hfile⟩
      · rintro ⟨u, hmem, hfile⟩
        exact ⟨(name, u), hmem, (names, octets), (ih (h _ hmem)).mpr hfile, ⟨rfl, rfl⟩, rfl⟩

/-- Every file is listed once. -/
theorem WellFormed.nodup_ways (h : t.WellFormed) : (t.files.map Prod.fst).Nodup := by
  induction h with
  | file octets => simp [files]
  | @directory children hnames hdistinct h ih =>
    rw [files, childFiles_eq_flatMap, List.map_flatMap, List.nodup_flatMap]
    constructor
    · intro c hc
      rw [List.map_map]
      have hways : (c.2.files.map Prod.fst).map (c.1 :: ·) =
          c.2.files.map (Prod.fst ∘ fun f => (c.1 :: f.1, f.2)) := List.map_map
      rw [← hways]
      exact (ih c hc).map fun _ _ heq => (List.cons.inj heq).2
    · refine (List.pairwise_map.mp hdistinct).imp fun hne => ?_
      rintro way hway hway'
      obtain ⟨f, hf, rfl⟩ := List.mem_map.mp hway
      obtain ⟨f', hf', heq⟩ := List.mem_map.mp hway'
      obtain ⟨g, -, rfl⟩ := List.mem_map.mp hf
      obtain ⟨g', -, rfl⟩ := List.mem_map.mp hf'
      exact hne (List.cons.inj heq).1.symm

/-! ### Walking -/

/-- Whether a part of a path says something. -/
def saysSomething (part : String) : Bool :=
  part ≠ "" && part ≠ "."

theorem step_name (h : IsName name) :
    step (t :: above) name = (t.child? name).map (· :: t :: above) := by
  obtain ⟨hempty, hpoint, hpoints, -⟩ := h
  cases t with
  | file octets => rfl
  | directory children => simp [step, isDirectory, hempty, hpoint, hpoints]

/-- A part that says nothing leads nowhere, and only in a directory. -/
theorem step_of_not_saysSomething {part : String} (hpart : saysSomething part = false)
    (h : step place part = some place') :
    place' = place ∧ ∃ children above, place = directory children :: above := by
  have hstays : part = "" ∨ part = "." := by
    by_contra hne
    rw [not_or] at hne
    simp [saysSomething, hne] at hpart
  cases place with
  | nil => exact nomatch h
  | cons t above =>
    cases t with
    | file octets => exact nomatch h
    | directory children =>
      simp only [step, isDirectory, Bool.not_true, Bool.false_eq_true, if_false] at h
      rw [if_pos (by simpa using hstays), Option.some.injEq] at h
      exact ⟨h.symm, children, above, rfl⟩

/-- Parts that say nothing may be left out of a path. -/
theorem foldlM_step_filter (h : ps.foldlM step place = some place') :
    (ps.filter saysSomething).foldlM step place = some place' := by
  induction ps generalizing place with
  | nil => exact h
  | cons p ps ih =>
    rw [List.foldlM_cons] at h
    obtain ⟨next, hnext, h⟩ := Option.bind_eq_some_iff.mp h
    cases hp : saysSomething p with
    | false =>
      rw [List.filter_cons_of_neg (by simp [hp]), ← (step_of_not_saysSomething hp hnext).1]
      exact ih h
    | true =>
      rw [List.filter_cons_of_pos hp, List.foldlM_cons, hnext]
      exact ih h

theorem walk_filter (h : walk place (ps ++ ps') = some t) :
    walk place (ps ++ ps'.filter saysSomething) = some t := by
  obtain ⟨last, hlast, hhead⟩ := Option.bind_eq_some_iff.mp h
  rw [List.foldlM_append] at hlast
  obtain ⟨between, hbetween, hrest⟩ := Option.bind_eq_some_iff.mp hlast
  unfold walk
  rw [List.foldlM_append, hbetween]
  exact Option.bind_eq_some_iff.mpr ⟨last, foldlM_step_filter hrest, hhead⟩

/-- Names lead down. -/
theorem foldlM_step_names (h : ∀ name ∈ names, IsName name) :
    (names.foldlM step (t :: above)).bind List.head? = t.descend names := by
  induction names generalizing t above with
  | nil => rfl
  | cons name names ih =>
    obtain ⟨hname, hnames⟩ := List.forall_mem_cons.mp h
    rw [List.foldlM_cons, step_name hname, descend_cons]
    cases t.child? name with
    | none => rfl
    | some u => exact ih hnames

/-- Names behind a path lead down from where the path leads. -/
theorem walk_append_names (hpath : walk place ps = some t) (h : ∀ name ∈ names, IsName name) :
    walk place (ps ++ names) = t.descend names := by
  obtain ⟨place', hplace', hhead⟩ := Option.bind_eq_some_iff.mp hpath
  obtain ⟨above, rfl⟩ : ∃ above, place' = t :: above := List.head?_eq_some_iff.mp hhead
  unfold walk
  rw [List.foldlM_append, hplace']
  exact foldlM_step_names h

/-- The last step of a walk. -/
theorem exists_step_of_walk_concat (h : walk place (ps ++ [name]) = some t) :
    ∃ place' above, step place' name = some (t :: above) := by
  obtain ⟨last, hlast, hhead⟩ := Option.bind_eq_some_iff.mp h
  obtain ⟨above, rfl⟩ : ∃ above, last = t :: above := List.head?_eq_some_iff.mp hhead
  rw [List.foldlM_append] at hlast
  obtain ⟨place', -, hstep⟩ := Option.bind_eq_some_iff.mp hlast
  obtain ⟨next, hnext, hdone⟩ := Option.bind_eq_some_iff.mp hstep
  exact ⟨place', above, Option.some.inj hdone ▸ hnext⟩

/-- A path leads through well-formed trees only. -/
theorem wellFormed_of_foldlM_step (hplace : ∀ t ∈ place, t.WellFormed)
    (h : ps.foldlM step place = some place') : ∀ t ∈ place', t.WellFormed := by
  induction ps generalizing place with
  | nil => exact Option.some.inj h ▸ hplace
  | cons p ps ih =>
    rw [List.foldlM_cons] at h
    obtain ⟨next, hnext, h⟩ := Option.bind_eq_some_iff.mp h
    refine ih ?_ h
    cases place with
    | nil => exact nomatch hnext
    | cons t above =>
      obtain ⟨ht, habove⟩ := List.forall_mem_cons.mp hplace
      rw [step] at hnext
      split_ifs at hnext
      · exact Option.some.inj hnext ▸ hplace
      · exact Option.some.inj hnext ▸ hplace
      · exact Option.some.inj hnext ▸ habove
      · obtain ⟨u, hu, rfl⟩ := Option.map_eq_some_iff.mp hnext
        exact List.forall_mem_cons.mpr ⟨(ht.child? hu).2, hplace⟩

theorem wellFormed_walk (hroot : root.WellFormed) (h : walk [root] ps = some t) :
    t.WellFormed := by
  obtain ⟨place, hplace, hhead⟩ := Option.bind_eq_some_iff.mp h
  refine wellFormed_of_foldlM_step (fun u hu => ?_) hplace t (List.mem_of_mem_head? hhead)
  rwa [List.mem_singleton.mp hu]

end ColumnLint.FileTree
