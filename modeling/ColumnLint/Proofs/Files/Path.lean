import ColumnLint.Files.Source
import ColumnLint.Proofs.Files.Tree

/-!
# Paths of files in a directory

The path of a file in a directory is that of the directory, without the parts that say nothing,
with the names on the way to the file behind.  It leads to the file wherever the path of the
directory leads to the directory (`entryAt_joined`).

The path of a file ends in the name of the file (`exists_fileName`).
-/

namespace ColumnLint

open ColumnLint.Text FileTree

variable {t root : FileTree} {workingDirectory path : String} {names ps : List String}
  {octets : List UInt8}

namespace FileTree

/-! ### Parts -/

theorem parts_ne_nil (path : String) : parts path ≠ [] := by
  unfold parts
  rw [ne_eq, List.map_eq_nil_iff]
  exact piecesOf_ne_nil '/' path.toList

theorem notMem_of_mem_parts {part : String} (h : part ∈ parts path) : '/' ∉ part.toList := by
  obtain ⟨piece, hpiece, rfl⟩ := List.mem_map.mp h
  obtain ⟨p, ps, hpieces, -, hp, hps⟩ := exists_piecesOf '/' path.toList
  rw [hpieces] at hpiece
  rw [String.toList_ofList]
  rcases List.mem_cons.mp hpiece with rfl | hpiece
  · exact hp
  · exact hps piece hpiece

/-- A slash in front adds an empty part. -/
theorem parts_slash (path : String) : parts ("/" ++ path) = "" :: parts path := by
  have hfront : ("/" ++ path).toList = [] ++ '/' :: path.toList := by simp
  unfold parts
  rw [hfront, piecesOf_append (by simp)]
  rfl

/-- A path that is empty or starts with a slash has an empty part. -/
theorem empty_mem_parts (h : path = "" ∨ path.startsWith "/" = true) : "" ∈ parts path := by
  rcases h with rfl | hslash
  · exact List.mem_singleton_self _
  · obtain ⟨rest, hrest⟩ := String.startsWith_string_iff.mp hslash
    have hpath : path = "/" ++ String.ofList rest := by
      rw [← String.toList_inj, ← hrest, String.toList_append]
      simp
    rw [hpath, parts_slash]
    exact List.mem_cons_self ..

/-- What slashes join is found again as the parts. -/
theorem parts_intercalate (hne : names ≠ []) (h : ∀ name ∈ names, '/' ∉ name.toList) :
    parts ("/".intercalate names) = names := by
  unfold parts
  rw [String.toList_intercalate]
  induction names with
  | nil => exact absurd rfl hne
  | cons name names ih =>
    obtain ⟨hname, hnames⟩ := List.forall_mem_cons.mp h
    cases names with
    | nil =>
      rw [List.map_singleton, List.intercalate_singleton, piecesOf_of_notMem hname,
        List.map_singleton, String.ofList_toList]
    | cons name' names =>
      have hsplit : "/".toList.intercalate ((name :: name' :: names).map String.toList) =
          name.toList ++ '/' :: "/".toList.intercalate ((name' :: names).map String.toList) := by
        rw [List.map_cons, List.map_cons, List.intercalate_cons_cons]
        simp
      rw [hsplit, piecesOf_append hname, List.map_cons, String.ofList_toList,
        ih (List.cons_ne_nil _ _) hnames]

theorem properParts_eq (path : String) :
    Source.properParts path = (parts path).filter saysSomething := rfl

/-- The last part of a path is what stands behind its last slash. -/
theorem exists_getLast?_parts (path : String) :
    ∃ front last, (parts path).getLast? = some last ∧ '/' ∉ last.toList ∧
      path.toList = front ++ last.toList ∧ ∀ c ∈ front.getLast?, c = '/' := by
  obtain ⟨front, last, hlast, hslash, hsplit, hfront⟩ :=
    exists_getLast?_piecesOf '/' path.toList
  refine ⟨front, String.ofList last, ?_, ?_, ?_, hfront⟩
  · unfold parts
    rw [List.getLast?_map, hlast]
    rfl
  · rwa [String.toList_ofList]
  · rwa [String.toList_ofList]

/-! ### What paths lead to -/

/-- The parts that a path is walked by, with those of the working directory unless it starts with a
slash. -/
theorem exists_entryAt_eq_walk (root : FileTree) (workingDirectory : String) (hpath : path ≠ "") :
    ∃ front, root.entryAt workingDirectory path = walk [root] (front ++ parts path) ∧
      front = if path.startsWith "/" then [] else parts workingDirectory := by
  unfold entryAt
  rw [if_neg hpath]
  split_ifs with hslash
  · exact ⟨[], rfl, rfl⟩
  · exact ⟨_, rfl, rfl⟩

/-- A slash in front of a path stays at the root. -/
theorem walk_slash (h : walk [root] ps = some t) (hps : ps ≠ []) (ps' : List String) :
    walk [root] ("" :: ps') = walk [root] ps' := by
  obtain ⟨p, ps, rfl⟩ := List.exists_cons_of_ne_nil hps
  cases root with
  | file octets => exact nomatch h
  | directory children =>
    unfold walk
    rw [List.foldlM_cons, step]
    simp [isDirectory]

theorem entryAt_slash (root : FileTree) (workingDirectory path : String) :
    root.entryAt workingDirectory ("/" ++ path) = walk [root] ("" :: parts path) := by
  have hstart : ("/" ++ path).startsWith "/" = true :=
    String.startsWith_string_iff.mpr ⟨path.toList, String.toList_append.symm⟩
  have hne : "/" ++ path ≠ "" := by
    rw [ne_eq, ← String.toList_inj, String.toList_append]
    simp
  rw [entryAt, if_neg hne, if_pos hstart, parts_slash]

theorem ne_empty_of_entryAt (h : root.entryAt workingDirectory path = some t) : path ≠ "" := by
  rintro rfl
  exact nomatch h

theorem wellFormed_entryAt (hroot : root.WellFormed)
    (h : root.entryAt workingDirectory path = some t) : t.WellFormed := by
  obtain ⟨front, hwalk, -⟩ := exists_entryAt_eq_walk root workingDirectory (ne_empty_of_entryAt h)
  exact wellFormed_walk hroot (hwalk ▸ h)

/-- A path that leads to a file ends in a part that says something. -/
theorem exists_fileName (h : root.entryAt workingDirectory path = some (.file octets)) :
    ∃ front name, path.toList = front ++ name.toList ∧ '/' ∉ name.toList ∧
      (∀ c ∈ front.getLast?, c = '/') ∧ (Source.properParts path).getLast? = some name := by
  obtain ⟨front, name, hlast, hslash, hsplit, hfront⟩ := exists_getLast?_parts path
  refine ⟨front, name, hsplit, hslash, hfront, ?_⟩
  obtain ⟨before, hparts⟩ := List.getLast?_eq_some_iff.mp hlast
  obtain ⟨base, hwalk, -⟩ := exists_entryAt_eq_walk root workingDirectory (ne_empty_of_entryAt h)
  rw [h, hparts, ← List.append_assoc] at hwalk
  obtain ⟨place, above, hstep⟩ := exists_step_of_walk_concat hwalk.symm
  have hname : saysSomething name = true := by
    cases hsays : saysSomething name with
    | true => rfl
    | false =>
      -- A part that says nothing stays in a directory.
      obtain ⟨hplace, children, above', hdirectory⟩ := step_of_not_saysSomething hsays hstep
      exact nomatch hplace.trans hdirectory
  rw [properParts_eq, hparts, List.filter_append, List.filter_cons_of_pos hname, List.filter_nil,
    List.getLast?_concat]

end FileTree

namespace Source

/-- The path of a file in a directory: what says something of the path of the directory and the
names, behind one or two slashes if the path starts with a slash. -/
theorem joined_cases (path : String) (names : List String) :
    path.startsWith "/" = true ∧
        (joined path names = "/" ++ "/".intercalate (properParts path ++ names) ∨
          joined path names = "/" ++ ("/" ++ "/".intercalate (properParts path ++ names))) ∨
      ¬ path.startsWith "/" = true ∧
        joined path names = "/".intercalate (properParts path ++ names) := by
  unfold joined
  dsimp only
  split_ifs with hdouble hslash
  · have hprefix : "//".toList <+: path.toList :=
      String.startsWith_string_iff.mp (Bool.and_eq_true_iff.mp hdouble).1
    have hslash : path.startsWith "/" = true :=
      String.startsWith_string_iff.mpr (List.IsPrefix.trans ⟨['/'], rfl⟩ hprefix)
    refine .inl ⟨hslash, .inr ?_⟩
    rw [← String.append_assoc]
    rfl
  · exact .inl ⟨hslash, .inl rfl⟩
  · exact .inr ⟨hslash, rfl⟩

/-- The parts of such a path between its slashes say something. -/
theorem parts_joined (path : String) (hne : names ≠ []) (h : ∀ name ∈ names, IsName name) :
    parts ("/".intercalate (properParts path ++ names)) = properParts path ++ names ∧
      "" ∉ properParts path ++ names := by
  have hall : ∀ q ∈ properParts path ++ names, q ≠ "" ∧ '/' ∉ q.toList := by
    intro q hq
    rcases List.mem_append.mp hq with hq | hq
    · rw [properParts_eq, List.mem_filter] at hq
      have hempty : q ≠ "" := by
        rintro rfl
        exact nomatch hq.2
      exact ⟨hempty, notMem_of_mem_parts hq.1⟩
    · exact ⟨(h q hq).1, (h q hq).2.2.2⟩
  exact ⟨parts_intercalate (by simp [hne]) fun q hq => (hall q hq).2,
    fun hempty => (hall "" hempty).1 rfl⟩

/-- The path of a file ends in the name of the file. -/
theorem getLast?_parts_joined (hne : names ≠ []) (h : ∀ name ∈ names, IsName name) :
    (parts (joined path names)).getLast? = names.getLast? := by
  obtain ⟨hparts, -⟩ := parts_joined path hne h
  have hlast : (parts ("/".intercalate (properParts path ++ names))).getLast? =
      names.getLast? := by
    rw [hparts, List.getLast?_append_of_ne_nil _ hne]
  have hslash : ∀ text, (parts ("/" ++ text)).getLast? = (parts text).getLast? := by
    intro text
    obtain ⟨p, ps, hps⟩ := List.exists_cons_of_ne_nil (parts_ne_nil text)
    rw [parts_slash, hps, List.getLast?_cons_cons]
  rcases joined_cases path names with ⟨-, hjoined | hjoined⟩ | ⟨-, hjoined⟩
  · rw [hjoined, hslash, hlast]
  · rw [hjoined, hslash, hslash, hlast]
  · rw [hjoined, hlast]

/-- Names behind the path of a directory lead down from the directory. -/
theorem entryAt_joined (ht : root.entryAt workingDirectory path = some t) (hne : names ≠ [])
    (h : ∀ name ∈ names, IsName name) :
    root.entryAt workingDirectory (joined path names) = t.descend names := by
  obtain ⟨hparts, hempty⟩ := parts_joined path hne h
  obtain ⟨front, hwalk, hfront⟩ :=
    exists_entryAt_eq_walk root workingDirectory (ne_empty_of_entryAt ht)
  rw [ht] at hwalk
  have hdown : walk [root] (front ++ (properParts path ++ names)) = t.descend names := by
    rw [← List.append_assoc, properParts_eq]
    exact walk_append_names (walk_filter hwalk.symm) h
  rcases joined_cases path names with ⟨hslash, hjoined⟩ | ⟨hslash, hjoined⟩
  · rw [if_pos hslash] at hfront
    subst hfront
    rw [List.nil_append] at hdown
    have hstay := walk_slash hwalk.symm (parts_ne_nil path)
    rcases hjoined with hjoined | hjoined
    · rw [hjoined, entryAt_slash, hstay, hparts, hdown]
    · rw [hjoined, entryAt_slash, parts_slash, hstay, hstay, hparts, hdown]
  · rw [← hparts] at hempty
    have hbody : "/".intercalate (properParts path ++ names) ≠ "" ∧
        ¬ ("/".intercalate (properParts path ++ names)).startsWith "/" = true :=
      ⟨fun hnone => hempty (empty_mem_parts (.inl hnone)),
        fun hstart => hempty (empty_mem_parts (.inr hstart))⟩
    rw [if_neg hslash] at hfront
    rw [hjoined, entryAt, if_neg hbody.1, if_neg hbody.2, hparts, ← hfront]
    exact hdown

end Source

end ColumnLint
