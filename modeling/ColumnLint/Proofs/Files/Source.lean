import ColumnLint.Proofs.Files.Ending
import ColumnLint.Proofs.Files.Path
import ColumnLint.Proofs.Distinct
import Mathlib.Data.List.Lex
import Mathlib.Data.List.Sort

/-!
# What paths stand for

A file stands for itself, and a directory for all files beneath it that have an ending, each once
and in the order of the names on the way to it (`StandsFor`).  Paths that all stand for something
give what they stand for, one after another, if that is anything at all; otherwise the first path
that stands for nothing is named (`ofPaths_outcome`).

The files of a directory are sorted by the names on the way, which are compared one after another
(`namesBefore_iff`), and no two files have the same ones.  So the order is strict, and there is only
one list that holds the files in this order (`StandsFor.unique`).
-/

namespace ColumnLint

open ColumnLint.Text FileTree

variable {root t : FileTree} {workingDirectory path : String} {look : String → Option FileTree}
  {sources : List Source} {names : List String} {octets : List UInt8} {kind : SourceKind}

/-- Whether the names lead down to a file whose own name has the ending of a kind. -/
def FileTree.HoldsSource (t : FileTree) (names : List String) (kind : SourceKind)
    (octets : List UInt8) : Prop :=
  t.descend names = some (.file octets) ∧ ∃ name ∈ names.getLast?, kind.Ends name

/-- A path has the ending of one kind only. -/
theorem SourceKind.Ends.unique {kind' : SourceKind} (h : kind.Ends path) (h' : kind'.Ends path) :
    kind = kind' := by
  obtain ⟨front, name, -, hslash, hpath, hfront⟩ := exists_getLast?_parts path
  rw [SourceKind.ends_iff hpath hfront, ← Source.kindOf?_eq_some_iff hslash] at h h'
  exact Option.some.inj (h.symm.trans h')

theorem FileTree.HoldsSource.unique {kind' : SourceKind} {octets' : List UInt8}
    (h : t.HoldsSource names kind octets) (h' : t.HoldsSource names kind' octets') :
    kind = kind' ∧ octets = octets' := by
  obtain ⟨hfile, name, hname, hkind⟩ := h
  obtain ⟨hfile', name', hname', hkind'⟩ := h'
  obtain rfl := Option.some.inj (hname.symm.trans hname')
  exact ⟨hkind.unique hkind', file.inj (Option.some.inj (hfile.symm.trans hfile'))⟩

namespace Source

/-! ### The order of names -/

/-- Names come before others if they are the same or the first that differs is less. -/
theorem namesBefore_iff {as bs : List String} :
    namesBefore as bs = true ↔ as = bs ∨ List.Lex (· < ·) as bs := by
  induction as generalizing bs with
  | nil =>
    cases bs with
    | nil => simp [namesBefore]
    | cons b bs => simp [namesBefore]
  | cons a as ih =>
    cases bs with
    | nil => simp [namesBefore]
    | cons b bs =>
      rw [namesBefore]
      split_ifs with hab
      · subst hab
        rw [ih, List.lex_cons_iff, List.cons.injEq, eq_self_iff_true, true_and]
      · rw [decide_eq_true_iff]
        constructor
        · exact fun hlt => .inr (.rel hlt)
        · rintro (heq | hlex)
          · exact absurd (List.cons.inj heq).1 hab
          · cases hlex with
            | cons h => exact absurd rfl hab
            | rel h => exact h

theorem namesBefore_trans {as bs cs : List String} (hab : namesBefore as bs = true)
    (hbc : namesBefore bs cs = true) : namesBefore as cs = true := by
  rw [namesBefore_iff] at hab hbc ⊢
  rcases hab with rfl | hab
  · exact hbc
  · rcases hbc with rfl | hbc
    · exact .inr hab
    · exact .inr (List.lex_trans String.lt_trans hab hbc)

theorem namesBefore_total (as bs : List String) :
    (namesBefore as bs || namesBefore bs as) = true := by
  rw [Bool.or_eq_true, namesBefore_iff, namesBefore_iff]
  by_cases hab : List.Lex (· < ·) as bs
  · exact .inl (.inr hab)
  · by_cases hba : List.Lex (· < ·) bs as
    · exact .inr (.inr hba)
    · exact .inl (.inl (Std.Trichotomous.trichotomous as bs hab hba))

theorem namesBefore_antisymm {as bs : List String} (hab : namesBefore as bs = true)
    (hba : namesBefore bs as = true) : as = bs := by
  rw [namesBefore_iff] at hab hba
  rcases hab with hab | hab
  · exact hab
  · rcases hba with hba | hba
    · exact hba.symm
    · exact absurd hba (Std.Asymm.asymm _ _ hab)

theorem pairwise_files_sorted (t : FileTree) :
    (t.files.mergeSort fun f g => namesBefore f.1 g.1).Pairwise fun f g => namesBefore f.1 g.1 := by
  refine List.pairwise_mergeSort (fun f g k => ?_) (fun f g => ?_) t.files
  · exact namesBefore_trans
  · exact namesBefore_total f.1 g.1

/-- The files of a tree, sorted, go strictly up. -/
theorem pairwise_ways_sorted (ht : t.WellFormed) :
    ((t.files.mergeSort fun f g => namesBefore f.1 g.1).map Prod.fst).Pairwise
      (List.Lex (· < ·)) := by
  have hdistinct : ((t.files.mergeSort fun f g => namesBefore f.1 g.1).map Prod.fst).Nodup :=
    ((List.mergeSort_perm _ _).map Prod.fst).nodup_iff.mpr ht.nodup_ways
  rw [List.pairwise_map]
  rw [List.Nodup, List.pairwise_map] at hdistinct
  refine ((pairwise_files_sorted t).and hdistinct).imp fun ⟨hbefore, hne⟩ => ?_
  exact (namesBefore_iff.mp hbefore).resolve_left hne

/-- The sources in a directory are read off its files in strict order. -/
theorem ofDirectory_eq (ht : t.WellFormed) {fs : List (List String × List UInt8)}
    (hperm : fs.Perm t.files) (hordered : fs.Pairwise fun f g => namesBefore f.1 g.1) :
    ofDirectory path t = fs.filterMap fun f =>
      (kindOf? ((f.1.getLast?).getD "")).map fun kind => ⟨kind, joined path f.1, f.2⟩ := by
  have hfiles : (t.files.mergeSort fun f g => namesBefore f.1 g.1).Perm t.files :=
    List.mergeSort_perm _ _
  have hsorted : (t.files.mergeSort fun f g => namesBefore f.1 g.1) = fs := by
    refine (hfiles.trans hperm.symm).eq_of_pairwise (fun f g hf hg hfg hgf => ?_)
      (pairwise_files_sorted t) hordered
    -- Files with the same names are the same.
    exact List.inj_on_of_nodup_map ht.nodup_ways (hfiles.mem_iff.mp hf) (hperm.mem_iff.mp hg)
      (namesBefore_antisymm hfg hgf)
  rw [ofDirectory, hsorted]

/-! ### What one path stands for -/

/-- What a path stands for. -/
inductive StandsFor (look : String → Option FileTree) (path : String) : List Source → Prop
  /-- A file with an ending stands for itself. -/
  | file {kind : SourceKind} {octets : List UInt8} (hlook : look path = some (.file octets))
      (hkind : kind.Ends path) : StandsFor look path [⟨kind, path, octets⟩]
  /-- A directory stands for the files beneath it with an ending. -/
  | directory {t : FileTree} {ways : List (List String)} {sources : List Source}
      (hlook : look path = some t) (hdirectory : t.isDirectory = true)
      (hordered : ways.Pairwise (List.Lex (· < ·)))
      (hways : ∀ names, names ∈ ways ↔ ∃ kind octets, t.HoldsSource names kind octets)
      (hsources : List.Forall₂ (fun names s => t.HoldsSource names s.kind s.octets ∧
        s.path = joined path names) ways sources) : StandsFor look path sources

/-- Why a path stands for nothing. -/
inductive Offends (look : String → Option FileTree) (path : String) : SourceError → Prop
  | notFound (hlook : look path = none) : Offends look path (.notFound path)
  | unsupported {octets : List UInt8} (hlook : look path = some (.file octets))
      (hkind : ∀ kind : SourceKind, ¬ kind.Ends path) : Offends look path (.unsupported path)

/-- The kind of a file in a directory is that of its own name. -/
theorem kindOf?_last_iff (hnames : ∀ name ∈ names, IsName name) :
    kindOf? (names.getLast?.getD "") = some kind ↔ ∃ name ∈ names.getLast?, kind.Ends name := by
  cases hlast : names.getLast? with
  | none => exact iff_of_false (by cases kind <;> decide +kernel) (by simp)
  | some name =>
    have hname : IsName name := hnames name (List.mem_of_getLast? hlast)
    rw [Option.getD_some, kindOf?_eq_some_iff hname.2.2.2]
    simp

/-- The sources in a directory are its files with an ending. -/
theorem standsFor_ofDirectory (ht : t.WellFormed) (hdirectory : t.isDirectory = true)
    (hlook : look path = some t) : StandsFor look path (ofDirectory path t) := by
  have hnames : ∀ {names octets}, (names, octets) ∈ t.files → ∀ name ∈ names, IsName name :=
    fun h => ht.isName_of_descend (ht.mem_files_iff.mp h)
  -- The ways are those of the sorted files, without the files that have no ending.
  have hkept := List.filter_sublist (p := fun f => (kindOf? (f.1.getLast?.getD "")).isSome)
    (l := t.files.mergeSort fun f g => namesBefore f.1 g.1)
  refine .directory hlook hdirectory ((pairwise_ways_sorted ht).sublist (hkept.map Prod.fst))
    (fun names => ?_) (List.forall₂_map_left_iff.mpr (forall₂_filter_filterMap fun f hf => ?_))
  · simp only [List.mem_map, List.mem_filter, List.mem_mergeSort, Option.isSome_iff_exists]
    constructor
    · rintro ⟨⟨names, octets⟩, ⟨hfile, kind, hkind⟩, rfl⟩
      exact ⟨kind, octets, ht.mem_files_iff.mp hfile,
        (kindOf?_last_iff (hnames hfile)).mp hkind⟩
    · rintro ⟨kind, octets, hfile, hkind⟩
      have hmem := ht.mem_files_iff.mpr hfile
      exact ⟨(names, octets), ⟨hmem, kind, (kindOf?_last_iff (hnames hmem)).mpr hkind⟩, rfl⟩
  · have hfile : f ∈ t.files := List.mem_mergeSort.mp hf
    cases hkind : kindOf? (f.1.getLast?.getD "") with
    | none => rfl
    | some kind =>
      exact ⟨_, rfl, ⟨ht.mem_files_iff.mp hfile, (kindOf?_last_iff (hnames hfile)).mp hkind⟩, rfl⟩

/-- A path stands for one list of sources only. -/
theorem StandsFor.unique {sources' : List Source} (h : StandsFor look path sources)
    (h' : StandsFor look path sources') : sources = sources' := by
  cases h with
  | file hlook hkind =>
    cases h' with
    | file hlook' hkind' =>
      obtain rfl := file.inj (Option.some.inj (hlook.symm.trans hlook'))
      rw [hkind.unique hkind']
    | directory hlook' hdirectory' =>
      obtain rfl := Option.some.inj (hlook.symm.trans hlook')
      exact nomatch hdirectory'
  | @directory t ways _ hlook hdirectory hordered hways hsources =>
    cases h' with
    | file hlook' hkind' =>
      obtain rfl := Option.some.inj (hlook.symm.trans hlook')
      exact nomatch hdirectory
    | @directory t' ways' _ hlook' _ hordered' hways' hsources' =>
      obtain rfl := Option.some.inj (hlook.symm.trans hlook')
      have hsame : ways = ways' :=
        hordered.eq_of_mem_iff hordered' fun names => (hways names).trans (hways' names).symm
      subst hsame
      refine List.right_unique_forall₂' ?_ hsources hsources'
      rintro names ⟨kind, path, octets⟩ ⟨kind', path', octets'⟩ ⟨hholds, rfl⟩ ⟨hholds', rfl⟩
      obtain ⟨rfl, rfl⟩ := hholds.unique hholds'
      rfl

/-- A path that stands for something does not offend. -/
theorem Offends.not_standsFor {e : SourceError} (h : Offends look path e) :
    ¬ StandsFor look path sources := by
  intro hstands
  cases h with
  | notFound hlook =>
    cases hstands with
    | file hlook' => exact nomatch hlook.symm.trans hlook'
    | directory hlook' => exact nomatch hlook.symm.trans hlook'
  | unsupported hlook hkind =>
    cases hstands with
    | file _ hkind' => exact hkind _ hkind'
    | directory hlook' hdirectory =>
      obtain rfl := Option.some.inj (hlook.symm.trans hlook')
      exact nomatch hdirectory

theorem Offends.unique {e e' : SourceError} (h : Offends look path e) (h' : Offends look path e') :
    e = e' := by
  cases h with
  | notFound hlook =>
    cases h' with
    | notFound => rfl
    | unsupported hlook' => exact nomatch hlook.symm.trans hlook'
  | unsupported hlook =>
    cases h' with
    | notFound hlook' => exact nomatch hlook.symm.trans hlook'
    | unsupported => rfl

/-! ### One path -/

/-- A file is read for the ending of its path. -/
theorem kindOf?_path_iff (hlook : root.entryAt workingDirectory path = some (.file octets)) :
    kindOf? ((properParts path).getLast?.getD "") = some kind ↔ kind.Ends path := by
  obtain ⟨front, name, hpath, hslash, hfront, hlast⟩ := exists_fileName hlook
  rw [hlast, Option.getD_some, kindOf?_eq_some_iff hslash, SourceKind.ends_iff hpath hfront]

/-- A path either stands for something or offends, and the program says which. -/
theorem ofPath_cases (hroot : root.WellFormed) (workingDirectory path : String) :
    (∃ sources notices, ofPath (root.entryAt workingDirectory) path = .ok (sources, notices) ∧
        StandsFor (root.entryAt workingDirectory) path sources) ∨
      ∃ e, ofPath (root.entryAt workingDirectory) path = .error e ∧
        Offends (root.entryAt workingDirectory) path e := by
  unfold ofPath
  cases hlook : root.entryAt workingDirectory path with
  | none => exact .inr ⟨_, rfl, .notFound hlook⟩
  | some t =>
    cases t with
    | directory children =>
      exact .inl ⟨_, _, rfl, standsFor_ofDirectory (wellFormed_entryAt hroot hlook) rfl hlook⟩
    | file octets =>
      have hkind : ∀ kind, kindOf? ((properParts path).getLast?.getD "") = some kind ↔
          kind.Ends path := fun kind => kindOf?_path_iff hlook
      cases hfound : kindOf? ((properParts path).getLast?.getD "") with
      | some kind => exact .inl ⟨_, _, rfl, .file hlook ((hkind kind).mp hfound)⟩
      | none =>
        refine .inr ⟨_, rfl, .unsupported hlook fun kind h => ?_⟩
        exact nomatch hfound.symm.trans ((hkind kind).mpr h)

/-- A path stands for something iff it exists and, if it leads to a file, has an ending. -/
theorem exists_standsFor_iff (hroot : root.WellFormed) :
    (∃ sources, StandsFor (root.entryAt workingDirectory) path sources) ↔
      (∃ t, root.entryAt workingDirectory path = some t) ∧
        ∀ octets, root.entryAt workingDirectory path = some (.file octets) →
          ∃ kind : SourceKind, kind.Ends path := by
  constructor
  · rintro ⟨sources, h⟩
    cases h with
    | file hlook hkind => exact ⟨⟨_, hlook⟩, fun _ _ => ⟨_, hkind⟩⟩
    | directory hlook hdirectory =>
      refine ⟨⟨_, hlook⟩, fun octets hfile => ?_⟩
      obtain rfl := Option.some.inj (hlook.symm.trans hfile)
      exact nomatch hdirectory
  · rintro ⟨⟨t, hlook⟩, hkind⟩
    rcases ofPath_cases hroot workingDirectory path with ⟨sources, -, -, h⟩ | ⟨e, -, h⟩
    · exact ⟨sources, h⟩
    · cases h with
      | notFound hnone => exact nomatch hlook.symm.trans hnone
      | unsupported hfile hnone =>
        obtain ⟨kind, hends⟩ := hkind _ hfile
        exact absurd hends (hnone kind)

/-- What a path stands for are files, at paths that lead to them and have an ending. -/
theorem StandsFor.leadsToFile (hroot : root.WellFormed)
    (h : StandsFor (root.entryAt workingDirectory) path sources) :
    ∀ s ∈ sources, root.entryAt workingDirectory s.path = some (.file s.octets) ∧
      s.kind.Ends s.path := by
  cases h with
  | file hlook hkind =>
    intro s hs
    rw [List.mem_singleton.mp hs]
    exact ⟨hlook, hkind⟩
  | @directory t ways _ hlook hdirectory hordered hways hsources =>
    intro s hs
    obtain ⟨names, -, ⟨hfile, name, hname, hkind⟩, hpath⟩ := exists_mem_of_forall₂ hsources.flip hs
    have hnames := (wellFormed_entryAt hroot hlook).isName_of_descend hfile
    have hne : names ≠ [] := by
      rintro rfl
      exact nomatch hname
    rw [hpath, entryAt_joined hlook hne hnames]
    refine ⟨hfile, ?_⟩
    obtain ⟨front, last, hlast, -, hsplit, hfront⟩ := exists_getLast?_parts (joined path names)
    rw [getLast?_parts_joined hne hnames] at hlast
    obtain rfl := Option.some.inj (hlast.symm.trans hname)
    exact (SourceKind.ends_iff hsplit hfront).mpr hkind

/-! ### Paths one after another -/

section Run

variable {paths : List String} {e : SourceError} {notices : List Notice}

theorem ofPathsFrom_cons_of_ok (h : ofPath look path = .ok (sources, notices)) :
    (ofPathsFrom look (path :: paths)).1 = (ofPathsFrom look paths).1.map (sources ++ ·) := by
  rw [ofPathsFrom, h]

theorem ofPathsFrom_cons_of_error (h : ofPath look path = .error e) :
    (ofPathsFrom look (path :: paths)).1 = .error e := by
  rw [ofPathsFrom, h]

/-- All paths are gone through iff each stands for something, and they give all of that in order. -/
theorem ofPathsFrom_eq_ok_iff (hroot : root.WellFormed) :
    (ofPathsFrom (root.entryAt workingDirectory) paths).1 = .ok sources ↔
      ∃ found, List.Forall₂ (StandsFor (root.entryAt workingDirectory)) paths found ∧
        sources = found.flatten := by
  -- Both sides are told by what the first path stands for and what the further ones give.
  induction paths generalizing sources with
  | nil => simp [ofPathsFrom, eq_comm]
  | cons path paths ih =>
    rcases ofPath_cases hroot workingDirectory path with
      ⟨own, notices, hpath, hstands⟩ | ⟨e, hpath, hoffends⟩
    · rw [ofPathsFrom_cons_of_ok hpath]
      constructor
      · intro h
        cases hmore : (ofPathsFrom (root.entryAt workingDirectory) paths).1 with
        | error e => exact nomatch hmore ▸ h
        | ok more =>
          rw [hmore] at h
          obtain ⟨found, hfound, rfl⟩ := ih.mp hmore
          exact ⟨own :: found, .cons hstands hfound, (Except.ok.inj h).symm⟩
      · rintro ⟨found, hfound, rfl⟩
        obtain ⟨own', more, hown, hmore, rfl⟩ := List.forall₂_cons_left_iff.mp hfound
        rw [ih.mpr ⟨more, hmore, rfl⟩, hstands.unique hown]
        rfl
    · rw [ofPathsFrom_cons_of_error hpath]
      refine iff_of_false nofun ?_
      rintro ⟨found, hfound, rfl⟩
      obtain ⟨own, more, hown, -, rfl⟩ := List.forall₂_cons_left_iff.mp hfound
      exact hoffends.not_standsFor hown

/-- The first path that offends ends the run, if those before stand for something. -/
theorem ofPathsFrom_eq_error_iff (hroot : root.WellFormed) :
    (ofPathsFrom (root.entryAt workingDirectory) paths).1 = .error e ↔
      ∃ before p after, paths = before ++ p :: after ∧
        (∀ q ∈ before, ∃ own, StandsFor (root.entryAt workingDirectory) q own) ∧
        Offends (root.entryAt workingDirectory) p e := by
  induction paths with
  | nil => simp [ofPathsFrom]
  | cons path paths ih =>
    rcases ofPath_cases hroot workingDirectory path with
      ⟨own, notices, hpath, hstands⟩ | ⟨e', hpath, hoffends⟩
    · -- A path that stands for something leaves the errors of the further ones.
      have hmap : (ofPathsFrom (root.entryAt workingDirectory) (path :: paths)).1 = .error e ↔
          (ofPathsFrom (root.entryAt workingDirectory) paths).1 = .error e := by
        rw [ofPathsFrom_cons_of_ok hpath]
        cases (ofPathsFrom (root.entryAt workingDirectory) paths).1 <;> simp [Except.map]
      rw [hmap, ih]
      constructor
      · rintro ⟨before, p, after, rfl, hbefore, hp⟩
        exact ⟨path :: before, p, after, rfl,
          List.forall_mem_cons.mpr ⟨⟨own, hstands⟩, hbefore⟩, hp⟩
      · rintro ⟨before, p, after, hsplit, hbefore, hp⟩
        cases before with
        | nil =>
          obtain ⟨rfl, -⟩ := List.cons.inj hsplit
          exact absurd hstands hp.not_standsFor
        | cons q before =>
          obtain ⟨rfl, rfl⟩ := List.cons.inj hsplit
          exact ⟨before, p, after, rfl, (List.forall_mem_cons.mp hbefore).2, hp⟩
    · rw [ofPathsFrom_cons_of_error hpath, Except.error.injEq]
      constructor
      · rintro rfl
        exact ⟨[], path, paths, rfl, nofun, hoffends⟩
      · rintro ⟨before, p, after, hsplit, hbefore, hp⟩
        cases before with
        | nil =>
          obtain ⟨rfl, -⟩ := List.cons.inj hsplit
          exact hoffends.unique hp
        | cons q before =>
          obtain ⟨rfl, -⟩ := List.cons.inj hsplit
          obtain ⟨own, hown⟩ := hbefore path (List.mem_cons_self ..)
          exact absurd hown hoffends.not_standsFor

end Run

/-! ### Paths as a whole -/

/-- Why paths give no sources. -/
inductive Rejects (look : String → Option FileTree) : List String → SourceError → Prop
  | noPaths : Rejects look [] .noPaths
  /-- The first path that offends is named. -/
  | offends {before after : List String} {p : String} {e : SourceError}
      (hbefore : ∀ q ∈ before, ∃ sources, StandsFor look q sources) (hp : Offends look p e) :
      Rejects look (before ++ p :: after) e
  | nothingFound {paths : List String} (hne : paths ≠ [])
      (hnothing : ∀ p ∈ paths, StandsFor look p []) : Rejects look paths (.nothingFound paths)

variable {paths : List String} {e : SourceError}

theorem fst_ofPaths (hne : paths ≠ []) :
    (ofPaths look paths).1 = match (ofPathsFrom look paths).1 with
      | .ok [] => .error (.nothingFound paths)
      | outcome => outcome := by
  unfold ofPaths
  rw [if_neg (by simpa using hne)]
  rcases ofPathsFrom look paths with ⟨_ | _ | _, notices⟩ <;> rfl

/-- Sources are given iff every path stands for something and not all of them for nothing. -/
theorem ofPaths_eq_ok_iff (hroot : root.WellFormed) :
    (ofPaths (root.entryAt workingDirectory) paths).1 = .ok sources ↔
      sources ≠ [] ∧ ∃ found, List.Forall₂ (StandsFor (root.entryAt workingDirectory)) paths found ∧
        sources = found.flatten := by
  rw [← ofPathsFrom_eq_ok_iff hroot]
  by_cases hne : paths = []
  · subst hne
    refine iff_of_false nofun ?_
    rintro ⟨hsome, hnone⟩
    exact hsome (Except.ok.inj hnone).symm
  · rw [fst_ofPaths hne]
    split
    · next hnothing =>
      rw [hnothing, Except.ok.injEq]
      exact iff_of_false nofun fun h => h.1 h.2.symm
    · next hsome =>
      constructor
      · intro h
        refine ⟨?_, h⟩
        rintro rfl
        exact hsome h
      · exact fun h => h.2

/-- Paths give nothing iff each of them does. -/
theorem ofPathsFrom_eq_ok_nil_iff (hroot : root.WellFormed) :
    (ofPathsFrom (root.entryAt workingDirectory) paths).1 = .ok [] ↔
      ∀ p ∈ paths, StandsFor (root.entryAt workingDirectory) p [] := by
  rw [ofPathsFrom_eq_ok_iff hroot]
  constructor
  · rintro ⟨found, hfound, hnothing⟩ p hp
    obtain ⟨own, hown, hstands⟩ := exists_mem_of_forall₂ hfound hp
    rwa [List.flatten_eq_nil_iff.mp hnothing.symm own hown] at hstands
  · intro h
    refine ⟨paths.map fun _ => [], List.forall₂_map_right_iff.mpr (List.forall₂_same.mpr h), ?_⟩
    simp

/-- No sources are given iff there is a reason, and then the reason is told. -/
theorem ofPaths_eq_error_iff (hroot : root.WellFormed) :
    (ofPaths (root.entryAt workingDirectory) paths).1 = .error e ↔
      Rejects (root.entryAt workingDirectory) paths e := by
  by_cases hne : paths = []
  · subst hne
    constructor
    · intro h
      exact Except.error.inj h ▸ .noPaths
    · generalize hpaths : ([] : List String) = paths
      intro h
      cases h with
      | noPaths => rfl
      | offends => exact absurd hpaths (by simp)
      | nothingFound hne => exact absurd hpaths.symm hne
  · rw [fst_ofPaths hne]
    split
    · next hnothing =>
      constructor
      · intro h
        exact Except.error.inj h ▸
          .nothingFound hne ((ofPathsFrom_eq_ok_nil_iff hroot).mp hnothing)
      · intro h
        cases h with
        | noPaths => exact absurd rfl hne
        | offends hbefore hp =>
          exact nomatch hnothing.symm.trans
            ((ofPathsFrom_eq_error_iff hroot).mpr ⟨_, _, _, rfl, hbefore, hp⟩)
        | nothingFound => rfl
    · next hsome =>
      rw [ofPathsFrom_eq_error_iff hroot]
      constructor
      · rintro ⟨before, p, after, rfl, hbefore, hp⟩
        exact .offends hbefore hp
      · intro h
        cases h with
        | noPaths => exact absurd rfl hne
        | offends hbefore hp => exact ⟨_, _, _, rfl, hbefore, hp⟩
        | nothingFound _ hnothing =>
          exact absurd ((ofPathsFrom_eq_ok_nil_iff hroot).mpr hnothing) hsome

/-- Paths give sources iff there are paths, all of them exist, those of files have an ending, and
some path stands for a source. -/
theorem exists_ofPaths_eq_ok_iff (hroot : root.WellFormed) :
    (∃ sources, (ofPaths (root.entryAt workingDirectory) paths).1 = .ok sources) ↔
      paths ≠ [] ∧ (∀ p ∈ paths, ∃ t, root.entryAt workingDirectory p = some t) ∧
        (∀ p ∈ paths, ∀ octets, root.entryAt workingDirectory p = some (.file octets) →
          ∃ kind : SourceKind, kind.Ends p) ∧
        ∃ p ∈ paths, ∃ sources, StandsFor (root.entryAt workingDirectory) p sources ∧
          sources ≠ [] := by
  simp only [ofPaths_eq_ok_iff hroot]
  constructor
  · rintro ⟨sources, hsources, found, hfound, rfl⟩
    have hall : ∀ p ∈ paths, ∃ own, StandsFor (root.entryAt workingDirectory) p own :=
      fun p hp => (exists_mem_of_forall₂ hfound hp).imp fun _ h => h.2
    obtain ⟨own, hown, hne⟩ : ∃ own ∈ found, own ≠ [] := by
      by_contra hnone
      push Not at hnone
      exact hsources (List.flatten_eq_nil_iff.mpr hnone)
    obtain ⟨p, hp, hstands⟩ := exists_mem_of_forall₂ hfound.flip hown
    exact ⟨List.ne_nil_of_mem hp, fun p hp => ((exists_standsFor_iff hroot).mp (hall p hp)).1,
      fun p hp => ((exists_standsFor_iff hroot).mp (hall p hp)).2, p, hp, own, hstands, hne⟩
  · rintro ⟨-, hexists, hending, p, hp, own, hstands, hne⟩
    have hall : ∀ p ∈ paths, ∃ own, StandsFor (root.entryAt workingDirectory) p own :=
      fun p hp => (exists_standsFor_iff hroot).mpr ⟨hexists p hp, hending p hp⟩
    obtain ⟨found, hfound⟩ : ∃ found,
        List.Forall₂ (StandsFor (root.entryAt workingDirectory)) paths found := by
      cases hrun : (ofPathsFrom (root.entryAt workingDirectory) paths).1 with
      | ok sources =>
        obtain ⟨found, hfound, -⟩ := (ofPathsFrom_eq_ok_iff hroot).mp hrun
        exact ⟨found, hfound⟩
      | error e =>
        obtain ⟨before, q, after, rfl, -, hq⟩ := (ofPathsFrom_eq_error_iff hroot).mp hrun
        obtain ⟨own, hown⟩ := hall q (by simp)
        exact absurd hown hq.not_standsFor
    obtain ⟨own', hown', hstands'⟩ := exists_mem_of_forall₂ hfound hp
    obtain rfl := hstands.unique hstands'
    refine ⟨_, fun hnothing => hne ?_, found, hfound, rfl⟩
    exact List.flatten_eq_nil_iff.mp hnothing own hown'

end Source

/-! ### What the errors say -/

/-- The paths that an error is about. -/
def SourceError.paths : SourceError → List String
  | .noPaths => []
  | .notFound path => [path]
  | .unsupported path => [path]
  | .nothingFound paths => paths

theorem infix_intercalate {p : String} {paths : List String} (separator : String) (hp : p ∈ paths) :
    p.toList <:+: (separator.intercalate paths).toList := by
  rw [String.toList_intercalate]
  induction paths with
  | nil => exact absurd hp List.not_mem_nil
  | cons q paths ih =>
    cases paths with
    | nil =>
      obtain rfl : p = q := List.mem_singleton.mp hp
      have hsingle : separator.toList.intercalate ([p].map String.toList) = p.toList := by simp
      exact ⟨[], [], by rw [hsingle, List.nil_append, List.append_nil]⟩
    | cons q' paths =>
      rw [List.map_cons, List.map_cons, List.intercalate_cons_cons, ← List.map_cons]
      rcases List.mem_cons.mp hp with rfl | hp
      · exact ⟨[], _, by rw [List.nil_append, List.append_assoc]⟩
      · exact (ih hp).trans (List.suffix_append _ _).isInfix

/-- The wording of an error has every path that it is about. -/
theorem SourceError.infix_message (e : SourceError) :
    ∀ p ∈ e.paths, p.toList <:+: e.message.toList := by
  intro p hp
  cases e with
  | noPaths => exact absurd hp List.not_mem_nil
  | notFound path =>
    obtain rfl : p = path := List.mem_singleton.mp hp
    show p.toList <:+: ("Input file not found: " ++ p).toList
    rw [String.toList_append]
    exact (List.suffix_append _ _).isInfix
  | unsupported path =>
    obtain rfl : p = path := List.mem_singleton.mp hp
    show p.toList <:+: ("Unsupported input file: " ++ p ++ ". Supported: .json, .sql").toList
    rw [String.toList_append, String.toList_append]
    exact List.infix_append _ _ _
  | nothingFound paths =>
    show p.toList <:+: ("No schema files found in: " ++ ", ".intercalate paths).toList
    rw [String.toList_append]
    exact (infix_intercalate ", " hp).trans (List.suffix_append _ _).isInfix

namespace Source

/-- In a well-formed tree, paths give sources iff there are paths, all of them exist, those of files
have an ending, and some path stands for a source; and then they give what they stand for, path by
path.  Otherwise the first path that does not exist or has no ending is told, or that there are no
paths or no sources, in words that have the path.  The path of a source always leads to a file. -/
theorem ofPaths_outcome (hroot : root.WellFormed) (workingDirectory : String)
    (paths : List String) :
    let look := root.entryAt workingDirectory
    let outcome := (ofPaths look paths).1
    ((∃ sources, outcome = .ok sources) ↔
        paths ≠ [] ∧ (∀ p ∈ paths, ∃ t, look p = some t) ∧
          (∀ p ∈ paths, ∀ octets, look p = some (.file octets) →
            ∃ kind : SourceKind, kind.Ends p) ∧
          ∃ p ∈ paths, ∃ sources, StandsFor look p sources ∧ sources ≠ []) ∧
      (∀ sources, outcome = .ok sources ↔
        sources ≠ [] ∧ ∃ found, List.Forall₂ (StandsFor look) paths found ∧
          sources = found.flatten) ∧
      (∀ e, outcome = .error e ↔ Rejects look paths e) ∧
      (∀ e, outcome = .error e → ∀ p ∈ e.paths, p.toList <:+: e.message.toList) ∧
      ∀ sources, outcome = .ok sources → ∀ s ∈ sources,
        look s.path = some (.file s.octets) ∧ s.kind.Ends s.path := by
  refine ⟨exists_ofPaths_eq_ok_iff hroot, fun _ => ofPaths_eq_ok_iff hroot,
    fun _ => ofPaths_eq_error_iff hroot, fun e _ => e.infix_message, fun sources h s hs => ?_⟩
  obtain ⟨-, found, hfound, rfl⟩ := (ofPaths_eq_ok_iff hroot).mp h
  obtain ⟨own, hown, hs⟩ := List.mem_flatten.mp hs
  obtain ⟨p, -, hstands⟩ := exists_mem_of_forall₂ hfound.flip hown
  exact StandsFor.leadsToFile hroot hstands s hs

/-- A directory with three files that have an ending, one of them in a directory that is called like
a file, and a hidden file. -/
def dataTree : FileTree :=
  (((empty.insert ["b.sql"] (.file [])).insert ["x.sql", "c.Sql"] (.file [])).insert ["a.JSON"]
    (.file [])).insert [".sql"] (.file [])

/-- The directory beside a note. -/
def notedTree : FileTree :=
  (empty.insert ["data"] dataTree).insert ["notes.txt"] (.file [])

theorem wellFormed_notedTree : dataTree.WellFormed ∧ notedTree.WellFormed := by
  have hempty : WellFormed empty := .directory nofun .nil nofun
  have hfile : WellFormed (.file []) := .file []
  have hdata : dataTree.WellFormed :=
    (((hempty.insert hfile (by decide)).insert hfile (by decide)).insert hfile
      (by decide)).insert hfile (by decide)
  exact ⟨hdata, (hempty.insert hdata (by decide)).insert hfile (by decide)⟩

theorem entryAt_notedTree :
    notedTree.entryAt "/" "data" = some dataTree ∧
      notedTree.entryAt "/" "notes.txt" = some (.file []) := by
  have hdata : "data".startsWith "/" = false := by decide +kernel
  have hnotes : "notes.txt".startsWith "/" = false := by decide +kernel
  constructor
  · rw [entryAt, if_neg (by decide), hdata]
    rfl
  · rw [entryAt, if_neg (by decide), hnotes]
    rfl

/-- The directory gives its three files, and the note is told before the path that leads nowhere. -/
theorem ofPaths_outcome_notedTree :
    (∃ sources, (ofPaths (notedTree.entryAt "/") ["data"]).1 = .ok sources ∧
      sources.map (fun s => (s.kind, s.path)) =
        [(.json, "data/a.JSON"), (.sql, "data/b.sql"), (.sql, "data/x.sql/c.Sql")]) ∧
      (ofPaths (notedTree.entryAt "/") ["data", "notes.txt", "missing"]).1 =
        .error (.unsupported "notes.txt") := by
  obtain ⟨hwellData, hwell⟩ := wellFormed_notedTree
  obtain ⟨hdata, hnotes⟩ := entryAt_notedTree
  obtain ⟨-, hok, -⟩ := ofPaths_outcome hwell "/" ["data"]
  obtain ⟨-, -, herror, -⟩ := ofPaths_outcome hwell "/" ["data", "notes.txt", "missing"]
  have hstands := standsFor_ofDirectory hwellData rfl hdata
  have hsources : (ofDirectory "data" dataTree).map (fun s => (s.kind, s.path)) =
      [(.json, "data/a.JSON"), (.sql, "data/b.sql"), (.sql, "data/x.sql/c.Sql")] := by
    have hperm : [([".sql"], []), (["a.JSON"], []), (["b.sql"], []), (["x.sql", "c.Sql"], [])].Perm
        dataTree.files := by decide +kernel
    rw [ofDirectory_eq hwellData hperm (by decide +kernel)]
    decide +kernel
  refine ⟨⟨_, (hok _).mpr ⟨fun hnothing => ?_, _, .cons hstands .nil, by simp⟩, hsources⟩,
    (herror _).mpr ?_⟩
  · rw [hnothing] at hsources
    exact nomatch hsources
  · have hbefore : ∀ q ∈ ["data"], ∃ sources, StandsFor (notedTree.entryAt "/") q sources := by
      intro q hq
      rw [List.mem_singleton.mp hq]
      exact ⟨_, hstands⟩
    refine .offends hbefore (.unsupported hnotes fun kind hends => ?_)
    have hnone : kindOf? "notes.txt" = none := by decide +kernel
    exact nomatch hnone.symm.trans ((kindOf?_eq_some_iff (by decide)).mpr hends)

end Source

end ColumnLint
