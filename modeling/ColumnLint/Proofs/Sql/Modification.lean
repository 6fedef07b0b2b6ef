import ColumnLint.Proofs.Text.Word
import ColumnLint.Catalog

/-!
# Changes of columns written as modifications

A text is read from its start as passages: a change where one is written
(`changedColumn?_eq_some_iff`), and a character that is kept elsewhere.  A change is read wherever
it is written, unless one that starts before it reaches into it (`IsReading.overlaps`).  Rewritten,
each change is one of the column's type, so the text is as it is meant iff no action says itself
what is changed (`altered_eq_meant_iff`).  `prepare_snowflake_passages` puts these together.
-/

namespace ColumnLint.Sql

open ColumnLint.Text

/-! ### Words behind gaps -/

/-- Whether a text is made of words, which are runs, each behind a gap. -/
inductive Spaced : List (List Char) → List Char → Prop
  | nil : Spaced [] []
  | cons {gap w : List Char} {ws : List (List Char)} {cs : List Char} (hgap : IsGap gap)
      (hw : IsRun w) (h : Spaced ws cs) : Spaced (w :: ws) (gap ++ (w ++ cs))

variable {c : Char} {cs gap rest run w : List Char}

namespace Spaced

variable {ws ws' : List (List Char)} {a b : List Char}

theorem append (h : Spaced ws a) (h' : Spaced ws' b) : Spaced (ws ++ ws') (a ++ b) := by
  induction h with
  | nil => exact h'
  | cons hgap hw _ ih =>
    rw [List.append_assoc, List.append_assoc]
    exact .cons hgap hw ih

theorem stops_cons (h : Spaced (w :: ws) a) (rest : List Char) : Stops (a ++ rest) := by
  cases h with
  | cons hgap =>
    rw [List.append_assoc]
    exact hgap.stops _

theorem stops (h : Spaced ws a) (hrest : Stops rest) : Stops (a ++ rest) := by
  cases h with
  | nil => exact hrest
  | cons hgap hw h => exact (Spaced.cons hgap hw h).stops_cons rest

theorem stops_self (h : Spaced ws a) : Stops a := by
  have hend : Stops [] := nofun
  simpa using h.stops hend

theorem inv_cons (h : Spaced (w :: ws) a) :
    ∃ gap b, IsGap gap ∧ IsRun w ∧ Spaced ws b ∧ a = gap ++ (w ++ b) := by
  cases h with
  | cons hgap hw h => exact ⟨_, _, hgap, hw, h, rfl⟩

theorem split_cons (h : Spaced (w :: ws) a) :
    ∃ b b', Spaced [w] b ∧ Spaced ws b' ∧ a = b ++ b' := by
  cases h with
  | @cons gap _ _ b hgap hw h =>
    refine ⟨gap ++ w, b, ?_, h, (List.append_assoc ..).symm⟩
    have hone := Spaced.cons hgap hw .nil
    rwa [List.append_nil] at hone

theorem split_append (h : Spaced (ws ++ ws') a) :
    ∃ b b', Spaced ws b ∧ Spaced ws' b' ∧ a = b ++ b' := by
  induction ws generalizing a with
  | nil => exact ⟨[], a, .nil, h, rfl⟩
  | cons w ws ih =>
    obtain ⟨b₁, b, hb₁, hb, rfl⟩ := h.split_cons
    obtain ⟨b₂, b₃, hb₂, hb₃, rfl⟩ := ih hb
    exact ⟨b₁ ++ b₂, b₃, hb₁.append hb₂, hb₃, (List.append_assoc ..).symm⟩

end Spaced

/-- The first words behind gaps are the same in both readings of a text. -/
theorem Spaced.cons_unique {w' : List Char} {ws ws' : List (List Char)} {a b rest rest' : List Char}
    (h : Spaced (w :: ws) a) (h' : Spaced (w' :: ws') b) (hrest : Stops rest)
    (hrest' : Stops rest') (heq : a ++ rest = b ++ rest') :
    w = w' ∧ ∃ a' b', Spaced ws a' ∧ Spaced ws' b' ∧ a' ++ rest = b' ++ rest' := by
  obtain ⟨gap, a', hgap, hw, ha, rfl⟩ := h.inv_cons
  obtain ⟨gap', b', hgap', hw', hb, rfl⟩ := h'.inv_cons
  simp only [List.append_assoc] at heq
  have hbehind := gap_unique hgap hgap' (hw.resumes _) (hw'.resumes _) heq
  obtain ⟨rfl, htail⟩ := run_unique hw hw' (ha.stops hrest) (hb.stops hrest') hbehind
  exact ⟨rfl, a', b', ha, hb, htail⟩

/-- The words of a text are the only ones. -/
theorem Spaced.unique {ws ws' : List (List Char)} {a b : List Char} (h : Spaced ws a)
    (h' : Spaced ws' b) (heq : a = b) : ws = ws' := by
  induction h generalizing ws' b with
  | nil =>
    cases h' with
    | nil => rfl
    | cons hgap => exact absurd (List.append_eq_nil_iff.mp heq.symm).1 hgap.1
  | cons hgap hw h ih =>
    cases h' with
    | nil => exact absurd (List.append_eq_nil_iff.mp heq).1 hgap.1
    | cons hgap' hw' h' =>
      have hbehind := gap_unique hgap hgap' (hw.resumes _) (hw'.resumes _) heq
      obtain ⟨rfl, htail⟩ := run_unique hw hw' h.stops_self h'.stops_self hbehind
      rw [ih h' htail]

/-! ### The parts of a change -/

theorem dropBlanks?_eq_some_iff :
    dropBlanks? cs = some rest ↔ ∃ gap, IsGap gap ∧ Resumes rest ∧ cs = gap ++ rest := by
  constructor
  · intro h
    cases cs with
    | nil => exact nomatch h
    | cons c r =>
      rw [dropBlanks?] at h
      split_ifs at h with hc
      obtain ⟨hgap, hrest, hsplit⟩ := cut_gap_iff.mp ⟨rfl, Option.some.inj h⟩
      exact ⟨_, ⟨List.cons_ne_nil c _, List.forall_mem_cons.mpr ⟨hc, hgap⟩⟩, hrest,
        congrArg (c :: ·) hsplit⟩
  · rintro ⟨gap, ⟨hne, hgap⟩, hrest, rfl⟩
    obtain ⟨c, gap, rfl⟩ := List.exists_cons_of_ne_nil hne
    obtain ⟨hc, hgap⟩ := List.forall_mem_cons.mp hgap
    rw [List.cons_append, dropBlanks?, if_pos hc, (cut_gap_iff.mpr ⟨hgap, hrest, rfl⟩).2]

theorem takeRun?_eq (cs : List Char) :
    takeRun? cs = if cs.takeWhile (!isBlank ·) = [] then none
      else some (cs.takeWhile (!isBlank ·), cs.dropWhile (!isBlank ·)) := by
  have hleft : (cs.takeWhile (!isBlank ·) ++ cs.dropWhile (!isBlank ·)).drop
      (cs.takeWhile (!isBlank ·)).length = cs.dropWhile (!isBlank ·) := List.drop_left
  rw [List.takeWhile_append_dropWhile] at hleft
  unfold takeRun?
  dsimp only
  rw [hleft]
  simp only [List.isEmpty_iff]

theorem takeRun?_eq_some_iff :
    takeRun? cs = some (run, rest) ↔ IsRun run ∧ Stops rest ∧ cs = run ++ rest := by
  rw [takeRun?_eq, IsRun, and_assoc, ← cut_run_iff]
  constructor
  · intro h
    split_ifs at h with hnil
    obtain ⟨rfl, rfl⟩ := Prod.mk.inj (Option.some.inj h)
    exact ⟨hnil, rfl, rfl⟩
  · rintro ⟨hne, rfl, rfl⟩
    exact if_neg hne

/-- A run behind a gap is read as one word. -/
theorem dropBlanks?_takeRun? :
    (∃ r, dropBlanks? cs = some r ∧ takeRun? r = some (run, rest)) ↔
      ∃ w, Spaced [run] w ∧ Stops rest ∧ cs = w ++ rest := by
  constructor
  · rintro ⟨r, hblanks, htaken⟩
    obtain ⟨gap, hgap, -, rfl⟩ := dropBlanks?_eq_some_iff.mp hblanks
    obtain ⟨hrun, hrest, rfl⟩ := takeRun?_eq_some_iff.mp htaken
    exact ⟨_, .cons hgap hrun .nil, hrest, by simp⟩
  · rintro ⟨w, hw, hrest, rfl⟩
    obtain ⟨gap, b, hgap, hrun, hb, rfl⟩ := hw.inv_cons
    cases hb
    refine ⟨run ++ rest, ?_, takeRun?_eq_some_iff.mpr ⟨hrun, hrest, rfl⟩⟩
    exact dropBlanks?_eq_some_iff.mpr ⟨gap, hgap, hrun.resumes rest, by simp⟩

theorem takeTwoRuns?_eq_some_iff {first second : List Char} :
    takeTwoRuns? cs = some (first, second, rest) ↔
      ∃ w, Spaced [first, second] w ∧ Stops rest ∧ cs = w ++ rest := by
  have hsteps : takeTwoRuns? cs = some (first, second, rest) ↔
      ∃ mid, (∃ r, dropBlanks? cs = some r ∧ takeRun? r = some (first, mid)) ∧
        ∃ r, dropBlanks? mid = some r ∧ takeRun? r = some (second, rest) := by
    unfold takeTwoRuns?
    simp only [Option.bind_eq_bind, Option.bind_eq_some_iff, Prod.exists, Option.pure_def,
      Option.some.injEq, Prod.mk.injEq]
    constructor
    · rintro ⟨r, hr, a, mid, hfirst, r', hr', b, rest, hsecond, rfl, rfl, rfl⟩
      exact ⟨mid, ⟨r, hr, hfirst⟩, r', hr', hsecond⟩
    · rintro ⟨mid, ⟨r, hr, hfirst⟩, r', hr', hsecond⟩
      exact ⟨r, hr, first, mid, hfirst, r', hr', second, rest, hsecond, rfl, rfl, rfl⟩
  rw [hsteps]
  constructor
  · rintro ⟨mid, hfirst, hsecond⟩
    obtain ⟨w, hw, -, rfl⟩ := dropBlanks?_takeRun?.mp hfirst
    obtain ⟨w', hw', hrest, rfl⟩ := dropBlanks?_takeRun?.mp hsecond
    exact ⟨w ++ w', hw.append hw', hrest, (List.append_assoc ..).symm⟩
  · rintro ⟨w, hw, hrest, rfl⟩
    obtain ⟨b, b', hb, hb', rfl⟩ := hw.split_cons
    rw [List.append_assoc]
    exact ⟨b' ++ rest, dropBlanks?_takeRun?.mpr ⟨b, hb, hb'.stops hrest, rfl⟩,
      dropBlanks?_takeRun?.mpr ⟨b', hb', hrest, rfl⟩⟩

/-- The words of a modification besides the names. -/
def modificationWords : List String := ["ALTER", "TABLE", "MODIFY", "COLUMN"]

theorem isRun_of_spellsWord {word : String} (hword : word ∈ modificationWords)
    (h : SpellsWord word w) : IsRun w := by
  have hletters : ∀ word ∈ modificationWords, word.toList ≠ [] ∧
      word.toList.all fun c => !isBlank c.toLower := by
    decide +kernel
  exact h.isRun (hletters word hword).1 (hletters word hword).2

/-- A word of a modification behind a gap. -/
theorem dropBlanks?_dropWord? {word : String} (hword : word ∈ modificationWords) :
    (∃ r, dropBlanks? cs = some r ∧ dropWord? word.toList r = some rest) ↔
      ∃ d w, SpellsWord word d ∧ Spaced [d] w ∧ cs = w ++ rest := by
  constructor
  · rintro ⟨r, hblanks, hdrop⟩
    obtain ⟨gap, hgap, -, rfl⟩ := dropBlanks?_eq_some_iff.mp hblanks
    obtain ⟨d, hd, rfl⟩ := dropWord?_eq_some_iff.mp hdrop
    exact ⟨d, _, hd, .cons hgap (isRun_of_spellsWord hword hd) .nil, by simp⟩
  · rintro ⟨d, w, hd, hw, rfl⟩
    obtain ⟨gap, b, hgap, hrun, hb, rfl⟩ := hw.inv_cons
    cases hb
    refine ⟨d ++ rest, ?_, dropWord?_append hd rest⟩
    exact dropBlanks?_eq_some_iff.mpr ⟨gap, hgap, hrun.resumes rest, by simp⟩

/-- The name of the table before the word for a modification, and what stands behind the word. -/
def afterModify? (cs : List Char) : Option (List Char × List Char) := do
  let cs ← dropWord? "ALTER".toList cs
  let cs ← dropWord? "TABLE".toList (← dropBlanks? cs)
  let (table, cs) ← takeRun? (← dropBlanks? cs)
  let cs ← dropWord? "MODIFY".toList (← dropBlanks? cs)
  return (table, cs)

/-- The column and what is to be changed of it behind the word for columns. -/
def namedColumn? (cs : List Char) : Option (List Char × List Char × List Char) := do
  takeTwoRuns? (← dropWord? "COLUMN".toList (← dropBlanks? cs))

/-- The text of a change of a column's type. -/
def alteredText (table column action : List Char) : List Char :=
  "ALTER TABLE ".toList ++ table ++ " ALTER COLUMN ".toList ++ column ++ " TYPE ".toList ++ action

theorem changedColumn?_eq (cs : List Char) :
    changedColumn? cs = (afterModify? cs).bind fun p =>
      ((namedColumn? p.2).or (takeTwoRuns? p.2)).map fun q =>
        (alteredText p.1 q.1 q.2.1, q.2.2) := by
  unfold changedColumn? afterModify? namedColumn? alteredText
  simp only [Option.bind_eq_bind, Option.bind_assoc, Option.pure_def, Option.bind_some,
    Option.map_eq_bind, Function.comp_def]

theorem afterModify?_eq_some_iff {table : List Char} :
    afterModify? cs = some (table, rest) ↔
      ∃ alter tableWord modify w, SpellsWord "ALTER" alter ∧ SpellsWord "TABLE" tableWord ∧
        SpellsWord "MODIFY" modify ∧ Spaced [tableWord, table, modify] w ∧
        cs = alter ++ (w ++ rest) := by
  have hsteps : afterModify? cs = some (table, rest) ↔
      ∃ r₁, dropWord? "ALTER".toList cs = some r₁ ∧
        ∃ r₂, (∃ r, dropBlanks? r₁ = some r ∧ dropWord? "TABLE".toList r = some r₂) ∧
          ∃ r₃, (∃ r, dropBlanks? r₂ = some r ∧ takeRun? r = some (table, r₃)) ∧
            ∃ r, dropBlanks? r₃ = some r ∧ dropWord? "MODIFY".toList r = some rest := by
    unfold afterModify?
    simp only [Option.bind_eq_bind, Option.bind_eq_some_iff, Prod.exists, Option.pure_def,
      Option.some.injEq, Prod.mk.injEq]
    constructor
    · rintro ⟨r₁, h₁, r, hr, r₂, h₂, r', hr', t, r₃, h₃, r'', hr'', rest, h₄, rfl, rfl⟩
      exact ⟨r₁, h₁, r₂, ⟨r, hr, h₂⟩, r₃, ⟨r', hr', h₃⟩, r'', hr'', h₄⟩
    · rintro ⟨r₁, h₁, r₂, ⟨r, hr, h₂⟩, r₃, ⟨r', hr', h₃⟩, r'', hr'', h₄⟩
      exact ⟨r₁, h₁, r, hr, r₂, h₂, r', hr', table, r₃, h₃, r'', hr'', rest, h₄, rfl, rfl⟩
  rw [hsteps]
  constructor
  · rintro ⟨r₁, h₁, r₂, h₂, r₃, h₃, h₄⟩
    obtain ⟨alter, halter, rfl⟩ := dropWord?_eq_some_iff.mp h₁
    obtain ⟨tableWord, w₁, htable, hw₁, rfl⟩ := (dropBlanks?_dropWord? (by decide)).mp h₂
    obtain ⟨w₂, hw₂, -, rfl⟩ := dropBlanks?_takeRun?.mp h₃
    obtain ⟨modify, w₃, hmodify, hw₃, rfl⟩ := (dropBlanks?_dropWord? (by decide)).mp h₄
    refine ⟨alter, tableWord, modify, w₁ ++ (w₂ ++ w₃), halter, htable, hmodify,
      hw₁.append (hw₂.append hw₃), ?_⟩
    simp only [List.append_assoc]
  · rintro ⟨alter, tableWord, modify, w, halter, htable, hmodify, hw, rfl⟩
    obtain ⟨w₁, w', hw₁, hw', rfl⟩ := hw.split_cons
    obtain ⟨w₂, w₃, hw₂, hw₃, rfl⟩ := hw'.split_cons
    simp only [List.append_assoc]
    refine ⟨_, dropWord?_append halter _, w₂ ++ (w₃ ++ rest), ?_, w₃ ++ rest, ?_, ?_⟩
    · exact (dropBlanks?_dropWord? (by decide)).mpr ⟨tableWord, w₁, htable, hw₁, rfl⟩
    · exact dropBlanks?_takeRun?.mpr ⟨w₂, hw₂, hw₃.stops_cons rest, rfl⟩
    · exact (dropBlanks?_dropWord? (by decide)).mpr ⟨modify, w₃, hmodify, hw₃, rfl⟩

theorem namedColumn?_eq_some_iff {column action : List Char} :
    namedColumn? cs = some (column, action, rest) ↔
      ∃ columnWord w, SpellsWord "COLUMN" columnWord ∧ Spaced [columnWord, column, action] w ∧
        Stops rest ∧ cs = w ++ rest := by
  have hsteps : namedColumn? cs = some (column, action, rest) ↔
      ∃ r, (∃ r', dropBlanks? cs = some r' ∧ dropWord? "COLUMN".toList r' = some r) ∧
        takeTwoRuns? r = some (column, action, rest) := by
    unfold namedColumn?
    simp only [Option.bind_eq_bind, Option.bind_eq_some_iff]
    constructor
    · rintro ⟨r', hr', r, hr, h⟩
      exact ⟨r, ⟨r', hr', hr⟩, h⟩
    · rintro ⟨r, ⟨r', hr', hr⟩, h⟩
      exact ⟨r', hr', r, hr, h⟩
  rw [hsteps]
  constructor
  · rintro ⟨r, hword, hruns⟩
    obtain ⟨columnWord, w₁, hcolumn, hw₁, rfl⟩ := (dropBlanks?_dropWord? (by decide)).mp hword
    obtain ⟨w₂, hw₂, hrest, rfl⟩ := takeTwoRuns?_eq_some_iff.mp hruns
    exact ⟨columnWord, w₁ ++ w₂, hcolumn, hw₁.append hw₂, hrest, (List.append_assoc ..).symm⟩
  · rintro ⟨columnWord, w, hcolumn, hw, hrest, rfl⟩
    obtain ⟨w₁, w₂, hw₁, hw₂, rfl⟩ := hw.split_cons
    rw [List.append_assoc]
    exact ⟨w₂ ++ rest, (dropBlanks?_dropWord? (by decide)).mpr ⟨columnWord, w₁, hcolumn, hw₁, rfl⟩,
      takeTwoRuns?_eq_some_iff.mpr ⟨w₂, hw₂, hrest, rfl⟩⟩

/-- In a text that goes on behind a gap there is a next word. -/
theorem exists_next (hrest : Stops rest) (hmore : ¬ ∀ c ∈ rest, isBlank c = true) :
    ∃ run w rest', Spaced [run] w ∧ Stops rest' ∧ rest = w ++ rest' := by
  have hblanks : dropBlanks? rest = some (rest.dropWhile isBlank) := by
    cases rest with
    | nil => exact absurd (fun c hc => absurd hc List.not_mem_nil) hmore
    | cons c rest =>
      have hc := hrest c rfl
      rw [dropBlanks?, if_pos hc, List.dropWhile_cons, if_pos hc]
  obtain ⟨c, behind, hbehind⟩ : ∃ c behind, rest.dropWhile isBlank = c :: behind :=
    List.exists_cons_of_ne_nil (mt List.dropWhile_eq_nil_iff.mp hmore)
  have hc : isBlank c = false :=
    (cut_gap_iff.mp ⟨rfl, hbehind⟩).2.1 c rfl
  have hrun : (rest.dropWhile isBlank).takeWhile (!isBlank ·) ≠ [] := by
    rw [hbehind, List.takeWhile_cons, hc]
    exact List.cons_ne_nil _ _
  obtain ⟨w, hw, hrest', heq⟩ := dropBlanks?_takeRun?.mp
    ⟨_, hblanks, (takeRun?_eq _).trans (if_neg hrun)⟩
  exact ⟨_, w, _, hw, hrest', heq⟩

/-- A column without the word for columns before it is read as such, unless it is named by this word
and more words follow. -/
theorem namedColumn?_eq_none_iff {column action : List Char} (h : Spaced [column, action] w)
    (hrest : Stops rest) :
    namedColumn? (w ++ rest) = none ↔
      (SpellsWord "COLUMN" column → ∀ c ∈ rest, isBlank c = true) := by
  constructor
  · intro hnone hcolumn
    by_contra hmore
    obtain ⟨run, w', rest', hw', hrest', rfl⟩ := exists_next hrest hmore
    have hsome : namedColumn? (w ++ (w' ++ rest')) = some (action, run, rest') :=
      namedColumn?_eq_some_iff.mpr
        ⟨column, w ++ w', hcolumn, h.append hw', hrest', (List.append_assoc ..).symm⟩
    exact nomatch hnone.symm.trans hsome
  · -- Read as the word for columns, the column would need a third word, and the rest has none.
    intro hblank
    rw [Option.eq_none_iff_forall_ne_some]
    rintro ⟨column', action', rest'⟩ hsome
    obtain ⟨columnWord, w', hcolumn, hw', hrest', heq⟩ := namedColumn?_eq_some_iff.mp hsome
    obtain ⟨rfl, a, b, ha, hb, heq⟩ := h.cons_unique hw' hrest hrest' heq
    obtain ⟨rfl, a', b', ha', hb', heq⟩ := ha.cons_unique hb hrest hrest' heq
    obtain ⟨gap, b'', hgap, hrun, -, rfl⟩ := hb'.inv_cons
    cases ha'
    obtain ⟨c, run, rfl⟩ := List.exists_cons_of_ne_nil hrun.1
    have hc : isBlank c = true := by
      refine hblank hcolumn c ?_
      rw [← List.nil_append rest, heq]
      simp
    exact absurd hc (by rw [hrun.2 c (List.mem_cons_self ..)]; exact Bool.false_ne_true)

/-! ### Changes -/

/-- A change of a column in a table; `named` tells whether the word for columns is written. -/
structure Change where
  named : Bool
  table : List Char
  column : List Char
  action : List Char

namespace Change

/-- How a change is written: `ALTER TABLE t MODIFY [COLUMN] c x`, with gaps between the words and
the letters in any case. -/
inductive IsWritten : Change → List Char → Prop
  | bare {alter tableWord modify table column action w : List Char}
      (halter : SpellsWord "ALTER" alter) (htable : SpellsWord "TABLE" tableWord)
      (hmodify : SpellsWord "MODIFY" modify)
      (h : Spaced [tableWord, table, modify, column, action] w) :
      IsWritten ⟨false, table, column, action⟩ (alter ++ w)
  | named {alter tableWord modify columnWord table column action w : List Char}
      (halter : SpellsWord "ALTER" alter) (htable : SpellsWord "TABLE" tableWord)
      (hmodify : SpellsWord "MODIFY" modify) (hcolumn : SpellsWord "COLUMN" columnWord)
      (h : Spaced [tableWord, table, modify, columnWord, column, action] w) :
      IsWritten ⟨true, table, column, action⟩ (alter ++ w)

/-- Whether a change ends before the text.  A column named by the word for columns is read as such
only if no word follows. -/
structure EndsBefore (ch : Change) (rest : List Char) : Prop where
  stops : Stops rest
  last : ch.named = false → SpellsWord "COLUMN" ch.column → ∀ c ∈ rest, isBlank c = true

/-- The change as a change of the column's type. -/
def altered (ch : Change) : List Char :=
  alteredText ch.table ch.column ch.action

/-- What a text says behind its first word is the same in both readings. -/
theorem words_unique {alter alter' a b : List Char} {ws ws' : List (List Char)}
    (halter : SpellsWord "ALTER" alter) (halter' : SpellsWord "ALTER" alter') (h : Spaced ws a)
    (h' : Spaced ws' b) (heq : alter ++ a = alter' ++ b) : ws = ws' :=
  h.unique h' (run_unique (isRun_of_spellsWord (by decide) halter)
    (isRun_of_spellsWord (by decide) halter') h.stops_self h'.stops_self heq).2

/-- A text is written by one change only. -/
theorem IsWritten.unique {ch ch' : Change} {a b : List Char} (h : ch.IsWritten a)
    (h' : ch'.IsWritten b) (heq : a = b) : ch = ch' := by
  cases h with
  | bare halter _ _ hw =>
    cases h' with
    | bare halter' _ _ hw' =>
      have hwords := words_unique halter halter' hw hw' heq
      simp only [List.cons.injEq] at hwords
      obtain ⟨-, rfl, -, rfl, rfl, -⟩ := hwords
      rfl
    | named halter' _ _ _ hw' =>
      have hwords := words_unique halter halter' hw hw' heq
      exact absurd (congrArg List.length hwords) (by simp)
  | named halter _ _ _ hw =>
    cases h' with
    | bare halter' _ _ hw' =>
      have hwords := words_unique halter halter' hw hw' heq
      exact absurd (congrArg List.length hwords) (by simp)
    | named halter' _ _ _ hw' =>
      have hwords := words_unique halter halter' hw hw' heq
      simp only [List.cons.injEq] at hwords
      obtain ⟨-, rfl, -, -, rfl, rfl, -⟩ := hwords
      rfl

end Change

/-- A change is found at the start of a text iff one is written there. -/
theorem changedColumn?_eq_some_iff {out : List Char} :
    changedColumn? cs = some (out, rest) ↔
      ∃ ch w, Change.IsWritten ch w ∧ ch.EndsBefore rest ∧ cs = w ++ rest ∧ out = ch.altered := by
  rw [changedColumn?_eq]
  constructor
  · intro h
    obtain ⟨⟨table, r⟩, hmodified, h⟩ := Option.bind_eq_some_iff.mp h
    obtain ⟨⟨column, action, rest'⟩, hfound, hout⟩ := Option.map_eq_some_iff.mp h
    obtain ⟨rfl, rfl⟩ := Prod.mk.inj hout
    obtain ⟨alter, tableWord, modify, w, halter, htable, hmodify, hw, rfl⟩ :=
      afterModify?_eq_some_iff.mp hmodified
    dsimp only at hfound ⊢
    cases hnamed : namedColumn? r with
    | some found =>
      rw [hnamed, Option.some_or] at hfound
      rw [hfound] at hnamed
      obtain ⟨columnWord, w', hcolumn, hw', hrest, rfl⟩ := namedColumn?_eq_some_iff.mp hnamed
      refine ⟨_, _, .named halter htable hmodify hcolumn (hw.append hw'), ⟨hrest, nofun⟩, ?_, rfl⟩
      simp only [List.append_assoc]
    | none =>
      rw [hnamed, Option.none_or] at hfound
      obtain ⟨w', hw', hrest, rfl⟩ := takeTwoRuns?_eq_some_iff.mp hfound
      have hlast := (namedColumn?_eq_none_iff hw' hrest).mp hnamed
      refine ⟨_, _, .bare halter htable hmodify (hw.append hw'), ⟨hrest, fun _ => hlast⟩, ?_, rfl⟩
      simp only [List.append_assoc]
  · rintro ⟨ch, w, hw, hend, rfl, rfl⟩
    refine Option.bind_eq_some_iff.mpr ?_
    cases hw with
    | @bare alter tableWord modify table column action w halter htable hmodify hw =>
      have hparts : Spaced ([tableWord, table, modify] ++ [column, action]) w := hw
      obtain ⟨w₁, w₂, hw₁, hw₂, rfl⟩ := hparts.split_append
      have hnamed := (namedColumn?_eq_none_iff hw₂ hend.stops).mpr (hend.last rfl)
      have hbare := takeTwoRuns?_eq_some_iff.mpr ⟨w₂, hw₂, hend.stops, rfl⟩
      refine ⟨(table, w₂ ++ rest), afterModify?_eq_some_iff.mpr
        ⟨alter, tableWord, modify, w₁, halter, htable, hmodify, hw₁, by simp⟩, ?_⟩
      dsimp only
      rw [hnamed, hbare]
      rfl
    | @named alter tableWord modify columnWord table column action w halter htable hmodify hcolumn
        hw =>
      have hparts : Spaced ([tableWord, table, modify] ++ [columnWord, column, action]) w := hw
      obtain ⟨w₁, w₂, hw₁, hw₂, rfl⟩ := hparts.split_append
      have hnamed := namedColumn?_eq_some_iff.mpr ⟨columnWord, w₂, hcolumn, hw₂, hend.stops, rfl⟩
      refine ⟨(table, w₂ ++ rest), afterModify?_eq_some_iff.mpr
        ⟨alter, tableWord, modify, w₁, halter, htable, hmodify, hw₁, by simp⟩, ?_⟩
      dsimp only
      rw [hnamed]
      rfl

/-! ### Texts with changes -/

namespace Change

theorem IsWritten.ne_nil {ch : Change} (h : ch.IsWritten w) : w ≠ [] := by
  rintro rfl
  generalize heq : ([] : List Char) = a at h
  cases h with
  | bare halter | named halter =>
    exact (isRun_of_spellsWord (by decide) halter).1 (List.append_eq_nil_iff.mp heq.symm).1

/-- Whether the action says itself what is changed, as `SET NOT NULL`, `SET DATA TYPE` and
`DROP NOT NULL` do. -/
def SaysWhat (ch : Change) : Prop :=
  SpellsWord "SET" ch.action ∨ SpellsWord "DROP" ch.action

instance : DecidablePred SaysWhat := fun _ => inferInstanceAs (Decidable (_ ∨ _))

/-- The change as one of the column, with the word for a type only if the action does not say what
is changed. -/
def meant (ch : Change) : List Char :=
  if ch.SaysWhat then
    "ALTER TABLE ".toList ++ ch.table ++ " ALTER COLUMN ".toList ++ ch.column ++ " ".toList ++
      ch.action
  else ch.altered

theorem meant_of_not_saysWhat {ch : Change} (h : ¬ ch.SaysWhat) : ch.meant = ch.altered :=
  if_neg h

theorem length_meant (ch : Change) :
    ch.meant.length ≤ ch.altered.length ∧
      (ch.SaysWhat → ch.meant.length < ch.altered.length) := by
  unfold meant altered alteredText
  split_ifs with h
  · simp
  · exact ⟨le_rfl, fun h' => absurd h' h⟩

end Change

/-- A passage of a text: a character that is kept, or a change as it is written. -/
inductive Passage where
  | kept (c : Char)
  | changed (w : List Char) (ch : Change)

namespace Passage

/-- The passage as it stands. -/
def text : Passage → List Char
  | kept c => [c]
  | changed w _ => w

/-- The passage with its change rewritten. -/
def altered : Passage → List Char
  | kept c => [c]
  | changed _ ch => ch.altered

/-- The passage with its change rewritten as it is meant. -/
def meant : Passage → List Char
  | kept c => [c]
  | changed _ ch => ch.meant

end Passage

variable {ps : List Passage}

/-- The text that passages make. -/
def textOf (ps : List Passage) : List Char := ps.flatMap Passage.text

/-- Whether a text starts with a change. -/
def StartsWithChange (cs : List Char) : Prop :=
  ∃ ch w rest, Change.IsWritten ch w ∧ ch.EndsBefore rest ∧ cs = w ++ rest

/-- Whether passages are read from the start of their text: a change wherever one starts, and a
character that is kept elsewhere. -/
inductive IsReading : List Passage → Prop
  | nil : IsReading []
  | kept {c : Char} {ps : List Passage} (h : ¬ StartsWithChange (c :: textOf ps))
      (hps : IsReading ps) : IsReading (.kept c :: ps)
  | changed {w : List Char} {ch : Change} {ps : List Passage} (hw : ch.IsWritten w)
      (hend : ch.EndsBefore (textOf ps)) (hps : IsReading ps) : IsReading (.changed w ch :: ps)

theorem changedColumn?_eq_none_iff : changedColumn? cs = none ↔ ¬ StartsWithChange cs := by
  constructor
  · rintro hnone ⟨ch, w, rest, hw, hend, rfl⟩
    have hsome := changedColumn?_eq_some_iff.mpr ⟨ch, w, hw, hend, rfl, rfl⟩
    exact nomatch hnone.symm.trans hsome
  · intro h
    rw [Option.eq_none_iff_forall_ne_some]
    rintro ⟨out, rest⟩ hsome
    obtain ⟨ch, w, hw, hend, hcs, -⟩ := changedColumn?_eq_some_iff.mp hsome
    exact h ⟨ch, w, rest, hw, hend, hcs⟩

/-- With steps for all its characters a text is read as passages. -/
theorem exists_reading (n : Nat) (cs : List Char) (hn : cs.length ≤ n) :
    ∃ ps, IsReading ps ∧ textOf ps = cs ∧ changeColumns n cs = ps.flatMap Passage.altered := by
  -- A step takes one character at least, as no change is written as the empty text.
  induction n generalizing cs with
  | zero =>
    obtain rfl := List.eq_nil_of_length_eq_zero (Nat.le_zero.mp hn)
    exact ⟨[], .nil, rfl, rfl⟩
  | succ n ih =>
    cases cs with
    | nil => exact ⟨[], .nil, rfl, rfl⟩
    | cons c cs =>
      cases hfound : changedColumn? (c :: cs) with
      | none =>
        obtain ⟨ps, hps, htext, hout⟩ := ih cs (Nat.le_of_succ_le_succ hn)
        refine ⟨.kept c :: ps, .kept ?_ hps, ?_, ?_⟩
        · rw [htext]
          exact changedColumn?_eq_none_iff.mp hfound
        · exact congrArg (c :: ·) htext
        · rw [changeColumns, hfound]
          exact congrArg (c :: ·) hout
      | some found =>
        obtain ⟨out, rest⟩ := found
        obtain ⟨ch, w, hw, hend, hsplit, rfl⟩ := changedColumn?_eq_some_iff.mp hfound
        have hlength := congrArg List.length hsplit
        have hpos := List.length_pos_of_ne_nil hw.ne_nil
        rw [List.length_append] at hlength
        obtain ⟨ps, hps, htext, hout⟩ := ih rest (by omega)
        refine ⟨.changed w ch :: ps, .changed hw (htext ▸ hend) hps, ?_, ?_⟩
        · rw [hsplit, ← htext]
          rfl
        · rw [changeColumns, hfound]
          exact congrArg (ch.altered ++ ·) hout

/-- At the start of a text at most one change is written. -/
theorem startsWithChange_unique {ch ch' : Change} {w' rest' : List Char} (hw : ch.IsWritten w)
    (hw' : ch'.IsWritten w') (hend : ch.EndsBefore rest) (hend' : ch'.EndsBefore rest')
    (heq : w ++ rest = w' ++ rest') : w = w' ∧ ch = ch' := by
  have hfound := changedColumn?_eq_some_iff.mpr ⟨ch, w, hw, hend, rfl, rfl⟩
  have hfound' := changedColumn?_eq_some_iff.mpr ⟨ch', w', hw', hend', rfl, rfl⟩
  rw [heq, hfound'] at hfound
  obtain ⟨-, rfl⟩ := Prod.mk.inj (Option.some.inj hfound)
  obtain rfl := List.append_cancel_right heq
  exact ⟨rfl, hw.unique hw' rfl⟩

/-- A change that is written somewhere is read there, unless one that is read before it reaches into
it. -/
theorem IsReading.overlaps (h : IsReading ps) {ch : Change} {before rest : List Char}
    (hw : ch.IsWritten w) (hend : ch.EndsBefore rest) (heq : textOf ps = before ++ (w ++ rest)) :
    (∃ ps₁ ps₂, ps = ps₁ ++ .changed w ch :: ps₂ ∧ textOf ps₁ = before) ∨
      ∃ ps₁ w' ch' ps₂, ps = ps₁ ++ .changed w' ch' :: ps₂ ∧
        (textOf ps₁).length < before.length ∧ before.length < (textOf ps₁ ++ w').length := by
  -- What is left before the change gets shorter with every passage.
  induction h generalizing before with
  | nil =>
    have hnil := (List.append_eq_nil_iff.mp heq.symm).2
    exact absurd (List.append_eq_nil_iff.mp hnil).1 hw.ne_nil
  | @kept c ps hnot _ ih =>
    have hsplit : c :: textOf ps = before ++ (w ++ rest) := heq
    cases before with
    | nil => exact absurd ⟨ch, w, rest, hw, hend, hsplit⟩ hnot
    | cons b before =>
      obtain ⟨rfl, htail⟩ := List.cons.inj hsplit
      rcases ih htail with ⟨ps₁, ps₂, rfl, rfl⟩ | ⟨ps₁, w', ch', ps₂, rfl, hstart, hreach⟩
      · exact .inl ⟨.kept c :: ps₁, ps₂, rfl, rfl⟩
      · refine .inr ⟨.kept c :: ps₁, w', ch', ps₂, rfl, ?_, ?_⟩
        · exact Nat.succ_lt_succ hstart
        · exact Nat.succ_lt_succ hreach
  | @changed w' ch' ps hw' hend' _ ih =>
    have hsplit : w' ++ textOf ps = before ++ (w ++ rest) := heq
    by_cases hbefore : before = []
    · subst hbefore
      obtain ⟨rfl, rfl⟩ := startsWithChange_unique hw' hw hend' hend hsplit
      exact .inl ⟨[], ps, rfl, rfl⟩
    by_cases hinside : before.length < w'.length
    · exact .inr ⟨[], w', ch', ps, rfl, List.length_pos_of_ne_nil hbefore, hinside⟩
    · obtain ⟨before, rfl⟩ : ∃ before', before = w' ++ before' := by
        refine (List.prefix_of_prefix_length_le (List.prefix_append w' (textOf ps)) ?_
          (not_lt.mp hinside)).imp fun _ => Eq.symm
        rw [hsplit]
        exact List.prefix_append ..
      rw [List.append_assoc] at hsplit
      rcases ih (List.append_cancel_left hsplit) with
        ⟨ps₁, ps₂, rfl, rfl⟩ | ⟨ps₁, w'', ch'', ps₂, rfl, hstart, hreach⟩
      · exact .inl ⟨.changed w' ch' :: ps₁, ps₂, rfl, rfl⟩
      · have htext : textOf (.changed w' ch' :: ps₁) = w' ++ textOf ps₁ := rfl
        refine .inr ⟨.changed w' ch' :: ps₁, w'', ch'', ps₂, rfl, ?_, ?_⟩ <;>
          simp only [htext, List.length_append] at hstart hreach ⊢ <;> omega

namespace Passage

/-- A passage is as it is meant unless its action says itself what is changed; then it is longer. -/
theorem length_meant (p : Passage) :
    p.meant.length ≤ p.altered.length ∧
      (p.meant.length = p.altered.length → ∀ w ch, p = .changed w ch → ¬ ch.SaysWhat) := by
  cases p with
  | kept c => exact ⟨le_rfl, fun _ _ _ h => nomatch h⟩
  | changed w ch =>
    refine ⟨ch.length_meant.1, fun hlength w' ch' h hsays => ?_⟩
    obtain ⟨rfl, rfl⟩ := Passage.changed.inj h
    exact absurd hlength (ch.length_meant.2 hsays).ne

end Passage

theorem length_flatMap_meant (ps : List Passage) :
    (ps.flatMap Passage.meant).length ≤ (ps.flatMap Passage.altered).length ∧
      ((ps.flatMap Passage.meant).length = (ps.flatMap Passage.altered).length →
        ∀ w ch, .changed w ch ∈ ps → ¬ ch.SaysWhat) := by
  induction ps with
  | nil => exact ⟨le_rfl, fun _ _ _ h => absurd h List.not_mem_nil⟩
  | cons p ps ih =>
    obtain ⟨hle, hrest⟩ := ih
    obtain ⟨hle', hfirst⟩ := p.length_meant
    rw [List.flatMap_cons, List.flatMap_cons, List.length_append, List.length_append]
    refine ⟨Nat.add_le_add hle' hle, fun hlength w ch hmem => ?_⟩
    rcases List.mem_cons.mp hmem with hp | hmem
    · exact hfirst (by omega) w ch hp.symm
    · exact hrest (by omega) w ch hmem

/-- Rewritten passages are as they are meant iff no action says itself what is changed. -/
theorem altered_eq_meant_iff (ps : List Passage) :
    ps.flatMap Passage.altered = ps.flatMap Passage.meant ↔
      ∀ w ch, .changed w ch ∈ ps → ¬ ch.SaysWhat := by
  constructor
  · exact fun h => (length_flatMap_meant ps).2 (congrArg List.length h).symm
  · intro h
    refine List.flatMap_congr fun p hp => ?_
    cases p with
    | kept c => rfl
    | changed w ch => exact (Change.meant_of_not_saysWhat (h w ch hp)).symm

theorem prepare_snowflake (s : String) :
    prepare standardPreparations "snowflake" s = (modifyToAlter s, []) := by
  have hown : standardPreparations.filter (·.1 = "snowflake") =
      [("snowflake", ⟨"modifyToAlter", fun s => .ok (modifyToAlter s)⟩)] := rfl
  rw [prepare, hown]
  rfl

/-- The text of a Snowflake script is prepared passage by passage.  Every change that is written in
it is rewritten, unless one that is read before reaches into it, and all else is kept.  The outcome
is as it is meant iff no action says itself what is changed. -/
theorem prepare_snowflake_passages (s : String) :
    ∃ ps, IsReading ps ∧ textOf ps = s.toList ∧
      prepare standardPreparations "snowflake" s =
        (String.ofList (ps.flatMap Passage.altered), []) ∧
      (ps.flatMap Passage.altered = ps.flatMap Passage.meant ↔
        ∀ w ch, .changed w ch ∈ ps → ¬ ch.SaysWhat) ∧
      ∀ ch w before rest, Change.IsWritten ch w → ch.EndsBefore rest →
        s.toList = before ++ (w ++ rest) →
        (∃ ps₁ ps₂, ps = ps₁ ++ .changed w ch :: ps₂ ∧ textOf ps₁ = before) ∨
          ∃ ps₁ w' ch' ps₂, ps = ps₁ ++ .changed w' ch' :: ps₂ ∧
            (textOf ps₁).length < before.length ∧ before.length < (textOf ps₁ ++ w').length := by
  obtain ⟨ps, hps, htext, hout⟩ := exists_reading s.length s.toList String.length_toList.le
  refine ⟨ps, hps, htext, ?_, altered_eq_meant_iff ps, fun ch w before rest hw hend heq => ?_⟩
  · rw [prepare_snowflake, modifyToAlter, hout]
  · exact hps.overlaps hw hend (htext.trans heq)

/-- The change at the start of a text is rewritten, whatever its case and its gaps. -/
theorem prepare_snowflake_passages_lowerCase :
    ∃ rest, prepare standardPreparations "snowflake"
        "alter table t\n  modify c INT; DROP TABLE a" =
      (String.ofList ("ALTER TABLE t ALTER COLUMN c TYPE INT;".toList ++ rest), []) := by
  obtain ⟨ps, hps, -, hout, -, hchanges⟩ :=
    prepare_snowflake_passages "alter table t\n  modify c INT; DROP TABLE a"
  have hspace : IsGap " ".toList := by decide +kernel
  have hline : IsGap "\n  ".toList := by decide +kernel
  have hspaced : Spaced ["table".toList, "t".toList, "modify".toList, "c".toList, "INT;".toList]
      " table t\n  modify c INT;".toList :=
    .cons hspace (by decide +kernel) (.cons hspace (by decide +kernel)
      (.cons hline (by decide +kernel) (.cons hspace (by decide +kernel)
        (.cons hspace (by decide +kernel) .nil))))
  have hwritten : Change.IsWritten ⟨false, "t".toList, "c".toList, "INT;".toList⟩
      ("alter".toList ++ " table t\n  modify c INT;".toList) :=
    .bare (by decide +kernel) (by decide +kernel) (by decide +kernel) hspaced
  have hends : Change.EndsBefore ⟨false, "t".toList, "c".toList, "INT;".toList⟩
      " DROP TABLE a".toList :=
    ⟨by decide +kernel, fun _ hcolumn => absurd hcolumn (by decide +kernel)⟩
  obtain ⟨ps₁, ps₂, rfl, hfirst⟩ | ⟨_, _, _, _, _, hbefore, _⟩ :=
    hchanges _ _ [] " DROP TABLE a".toList hwritten hends rfl
  · -- No passage is empty, so none is read before the first change.
    cases ps₁ with
    | nil => exact ⟨ps₂.flatMap Passage.altered, hout⟩
    | cons p ps₁ =>
      have hnil := (List.append_eq_nil_iff.mp hfirst).1
      cases hps with
      | kept => exact nomatch hnil
      | changed hw => exact absurd hnil hw.ne_nil
  · exact absurd hbefore (Nat.not_lt_zero _)

/-- An action that says itself what is changed is taken for a type, and so the change is lost,
though the other form of it is not. -/
theorem setNotNull_retyped :
    Change.SaysWhat ⟨true, "t".toList, "c".toList, "SET".toList⟩ ∧
      modifyToAlter "ALTER TABLE t MODIFY COLUMN c SET NOT NULL" =
        "ALTER TABLE t ALTER COLUMN c TYPE SET NOT NULL" ∧
      ["MODIFY", "ALTER"].map (fun word =>
          (Catalog.empty.applyScript standardPreparations "snowflake"
            ("CREATE TABLE t (c INT); ALTER TABLE t " ++ word ++
              " COLUMN c SET NOT NULL")).1.tables.map
            fun t => t.columns.map Column.nullable) =
        [[[true]], [[false]]] := by
  decide +kernel

end ColumnLint.Sql
