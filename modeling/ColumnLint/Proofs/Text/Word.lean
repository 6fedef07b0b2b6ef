import ColumnLint.Text.Blank
import ColumnLint.Text.Word
import Mathlib.Data.List.Forall2
import Mathlib.Data.List.TakeWhile

/-!
# Words and fields

A text is cut where a class of characters ends (`cut_iff`), so a run of characters that are not
blank and the gap behind it are told by the text alone.

A text begins with a word, without regard to case, iff it is a spelling of the word with a rest
behind it (`dropWord?_eq_some_iff`).  A letter of a spelling is no blank, as a blank has no other
case, so a spelling of letters is a run (`SpellsWord.isRun`).

The fields of a text are its maximal runs of characters that are no separators (`mem_fieldsOf`).
They are cut from the end of the text, so the induction is over the texts that it ends with, and the
field that such a text starts with is kept apart, as it may go on to the left (`mem_cutFields`).
-/

namespace ColumnLint.Text

variable {c : Char} {word : String} {cs gap rest run : List Char}

/-! ### Runs and gaps -/

/-- A text is cut in two by a class of characters: the part in front is in it, and what follows
does not begin in it. -/
theorem cut_iff {p : Char → Bool} :
    cs.takeWhile p = run ∧ cs.dropWhile p = rest ↔
      (∀ c ∈ run, p c = true) ∧ (∀ c ∈ rest.head?, p c = false) ∧ cs = run ++ rest := by
  constructor
  · rintro ⟨rfl, rfl⟩
    refine ⟨fun c hc => List.mem_takeWhile_imp hc, fun c hc => ?_,
      List.takeWhile_append_dropWhile.symm⟩
    have hhead := List.head?_dropWhile_not p cs
    rwa [hc] at hhead
  · rintro ⟨hrun, hrest, rfl⟩
    rw [List.takeWhile_append_of_pos hrun, List.dropWhile_append_of_pos hrun]
    cases rest with
    | nil => simp
    | cons c rest => simp [hrest c rfl]

theorem cut_not_iff {p : Char → Bool} :
    cs.takeWhile (!p ·) = run ∧ cs.dropWhile (!p ·) = rest ↔
      (∀ c ∈ run, p c = false) ∧ (∀ c ∈ rest.head?, p c = true) ∧ cs = run ++ rest := by
  rw [cut_iff]
  simp only [Bool.not_eq_true', Bool.not_eq_false']

/-- Whether a text is a run of characters that are not blank. -/
def IsRun (w : List Char) : Prop :=
  w ≠ [] ∧ ∀ c ∈ w, isBlank c = false

/-- Whether a text is blank and not empty. -/
def IsGap (w : List Char) : Prop :=
  w ≠ [] ∧ ∀ c ∈ w, isBlank c = true

/-- Whether a run ends before the text. -/
def Stops (rest : List Char) : Prop :=
  ∀ c ∈ rest.head?, isBlank c = true

/-- Whether a gap ends before the text. -/
def Resumes (rest : List Char) : Prop :=
  ∀ c ∈ rest.head?, isBlank c = false

-- These look at the characters of the text only, not at all characters there are.
instance : DecidablePred IsRun := fun w =>
  decidable_of_iff (w ≠ [] ∧ w.all (!isBlank ·)) (by simp [IsRun])

instance : DecidablePred IsGap := fun w =>
  decidable_of_iff (w ≠ [] ∧ w.all isBlank) (by simp [IsGap])

instance : DecidablePred Stops := fun rest =>
  decidable_of_iff (rest.head?.all isBlank) (by simp [Stops, Option.all_eq_true])

theorem IsRun.resumes (h : IsRun run) (rest : List Char) : Resumes (run ++ rest) := by
  obtain ⟨c, run, rfl⟩ := List.exists_cons_of_ne_nil h.1
  intro d hd
  obtain rfl := Option.some.inj hd
  exact h.2 c (List.mem_cons_self ..)

theorem IsGap.stops (h : IsGap gap) (rest : List Char) : Stops (gap ++ rest) := by
  obtain ⟨c, gap, rfl⟩ := List.exists_cons_of_ne_nil h.1
  intro d hd
  obtain rfl := Option.some.inj hd
  exact h.2 c (List.mem_cons_self ..)

theorem cut_run_iff :
    cs.takeWhile (!isBlank ·) = run ∧ cs.dropWhile (!isBlank ·) = rest ↔
      (∀ c ∈ run, isBlank c = false) ∧ Stops rest ∧ cs = run ++ rest :=
  cut_not_iff

theorem cut_gap_iff :
    cs.takeWhile isBlank = gap ∧ cs.dropWhile isBlank = rest ↔
      (∀ c ∈ gap, isBlank c = true) ∧ Resumes rest ∧ cs = gap ++ rest :=
  cut_iff

/-- A run ends where the next gap begins. -/
theorem run_unique {run' rest' : List Char} (hrun : IsRun run) (hrun' : IsRun run')
    (hrest : Stops rest) (hrest' : Stops rest') (h : run ++ rest = run' ++ rest') :
    run = run' ∧ rest = rest' := by
  obtain ⟨rfl, rfl⟩ := cut_run_iff.mpr ⟨hrun.2, hrest, h.symm⟩
  exact cut_run_iff.mpr ⟨hrun'.2, hrest', rfl⟩

/-- A gap ends where the next run begins. -/
theorem gap_unique {gap' rest' : List Char} (hgap : IsGap gap) (hgap' : IsGap gap')
    (hrest : Resumes rest) (hrest' : Resumes rest') (h : gap ++ rest = gap' ++ rest') :
    rest = rest' := by
  obtain ⟨-, rfl⟩ := cut_gap_iff.mpr ⟨hgap.2, hrest, h.symm⟩
  exact (cut_gap_iff.mpr ⟨hgap'.2, hrest', rfl⟩).2

/-! ### Words -/

/-- Whether a text is a word, letter by letter, when case is put aside. -/
def SpellsWord (word : String) (cs : List Char) : Prop :=
  List.Forall₂ (fun w c => sameLetter w c = true) word.toList cs

instance (word : String) : DecidablePred (SpellsWord word) := fun _ =>
  inferInstanceAs (Decidable (List.Forall₂ _ _ _))

/-- A text begins with a word iff it is a spelling of the word with the rest behind it. -/
theorem dropWord?_eq_some_iff :
    dropWord? word.toList cs = some rest ↔ ∃ d, SpellsWord word d ∧ cs = d ++ rest := by
  unfold SpellsWord
  induction word.toList generalizing cs with
  | nil =>
    rw [dropWord?, Option.some.injEq]
    constructor
    · rintro rfl
      exact ⟨[], .nil, rfl⟩
    · rintro ⟨d, hd, rfl⟩
      rw [List.forall₂_nil_left_iff.mp hd]
      rfl
  | cons w ws ih =>
    cases cs with
    | nil =>
      rw [dropWord?]
      refine iff_of_false nofun ?_
      rintro ⟨d, hd, hsplit⟩
      obtain ⟨c, d, -, -, rfl⟩ := List.forall₂_cons_left_iff.mp hd
      exact nomatch hsplit
    | cons c cs =>
      rw [dropWord?]
      split_ifs with hc
      · rw [ih]
        constructor
        · rintro ⟨d, hd, rfl⟩
          exact ⟨c :: d, .cons hc hd, rfl⟩
        · rintro ⟨d, hd, hsplit⟩
          obtain ⟨c', d', -, hd', rfl⟩ := List.forall₂_cons_left_iff.mp hd
          exact ⟨d', hd', (List.cons.inj hsplit).2⟩
      · refine iff_of_false nofun ?_
        rintro ⟨d, hd, hsplit⟩
        obtain ⟨c', d, hc', -, rfl⟩ := List.forall₂_cons_left_iff.mp hd
        exact hc ((List.cons.inj hsplit).1 ▸ hc')

theorem dropWord?_append (h : SpellsWord word cs) (rest : List Char) :
    dropWord? word.toList (cs ++ rest) = some rest :=
  dropWord?_eq_some_iff.mpr ⟨cs, h, rfl⟩

/-- Where the codes of the blanks lie. -/
theorem isBlank_toNat (h : isBlank c = true) :
    c.toNat < 65 ∨ c.toNat = 0x85 ∨ c.toNat = 0xA0 ∨ 0x1680 ≤ c.toNat ∧ c.toNat ≤ 0x205F ∨
      c.toNat = 0x3000 := by
  simp only [isBlank, Bool.or_eq_true, Bool.and_eq_true, decide_eq_true_eq, beq_iff_eq] at h
  omega

/-- A blank has no other case. -/
theorem toLower_of_isBlank (h : isBlank c = true) : c.toLower = c := by
  have hcode := isBlank_toNat h
  unfold Char.toLower
  rw [dif_neg]
  rintro ⟨hle, hge⟩
  have hle' : 65 ≤ c.toNat := hle
  have hge' : c.toNat ≤ 90 := hge
  omega

theorem isBlank_of_sameLetter {w : Char} (h : sameLetter w c = true) (hc : isBlank c = true) :
    isBlank w.toLower = true := by
  have hcode := isBlank_toNat hc
  unfold sameLetter at h
  simp only [Bool.or_eq_true, Bool.and_eq_true, decide_eq_true_eq] at h
  rcases h with (h | ⟨-, h⟩) | ⟨-, h⟩
  · rwa [← h, toLower_of_isBlank hc]
  · omega
  · omega

/-- A spelling of letters holds no blank. -/
theorem SpellsWord.not_isBlank (h : SpellsWord word cs)
    (hword : word.toList.all fun w => !isBlank w.toLower) : ∀ c ∈ cs, isBlank c = false := by
  unfold SpellsWord at h
  generalize word.toList = ws at h hword
  induction h with
  | nil => exact fun _ hc => absurd hc List.not_mem_nil
  | cons hsame _ ih =>
    rw [List.all_cons, Bool.and_eq_true, Bool.not_eq_true'] at hword
    obtain ⟨hw, hws⟩ := hword
    refine List.forall_mem_cons.mpr ⟨Bool.eq_false_iff.mpr fun hc => ?_, ih hws⟩
    exact Bool.eq_false_iff.mp hw (isBlank_of_sameLetter hsame hc)

theorem SpellsWord.isRun (h : SpellsWord word cs) (hne : word.toList ≠ [])
    (hword : word.toList.all fun w => !isBlank w.toLower) : IsRun cs := by
  refine ⟨?_, h.not_isBlank hword⟩
  rintro rfl
  exact hne (List.forall₂_nil_right_iff.mp h)

/-! ### Fields -/

section Fields

variable {p : Char → Bool} {w before : List Char}

/-- Whether a text is a maximal run of characters that are no separators inside another one. -/
def IsField (p : Char → Bool) (cs before w : List Char) : Prop :=
  w ≠ [] ∧ (∀ c ∈ w, p c = false) ∧ (∀ c ∈ before.getLast?, p c = true) ∧
    ∃ after, (∀ c ∈ after.head?, p c = true) ∧ cs = before ++ (w ++ after)

/-- The first field of a text, if it starts with one, and the others. -/
def cutFields (p : Char → Bool) (cs : List Char) : List Char × List (List Char) :=
  cs.foldr (fun c (r : List Char × List (List Char)) =>
    if p c then ([], if r.1.isEmpty then r.2 else r.1 :: r.2) else (c :: r.1, r.2)) ([], [])

theorem fieldsOf_eq (p : Char → Bool) (cs : List Char) :
    fieldsOf p cs = if (cutFields p cs).1 = [] then (cutFields p cs).2
      else (cutFields p cs).1 :: (cutFields p cs).2 := by
  simp only [← List.isEmpty_iff]
  rfl

theorem cutFields_cons (p : Char → Bool) (c : Char) (cs : List Char) :
    cutFields p (c :: cs) =
      if p c then ([], fieldsOf p cs) else (c :: (cutFields p cs).1, (cutFields p cs).2) := by
  rfl

theorem fst_cutFields (p : Char → Bool) (cs : List Char) :
    (cutFields p cs).1 = cs.takeWhile (!p ·) := by
  induction cs with
  | nil => rfl
  | cons c cs ih =>
    rw [cutFields_cons, List.takeWhile_cons]
    cases hc : p c
    · simp [ih]
    · simp

theorem isField_nil_iff :
    IsField p cs [] w ↔ w ≠ [] ∧ w = cs.takeWhile (!p ·) := by
  constructor
  · rintro ⟨hne, hw, -, after, hafter, hsplit⟩
    exact ⟨hne, (cut_not_iff.mpr ⟨hw, hafter, hsplit⟩).1.symm⟩
  · rintro ⟨hne, rfl⟩
    obtain ⟨hw, hafter, hsplit⟩ := cut_not_iff.mp ⟨rfl, rfl⟩
    exact ⟨hne, hw, nofun, _, hafter, hsplit⟩

theorem isField_cons_iff {b : Char} :
    IsField p (c :: cs) (b :: before) w ↔
      c = b ∧ (before = [] → p c = true) ∧ IsField p cs before w := by
  constructor
  · rintro ⟨hne, hw, hlast, after, hafter, hsplit⟩
    obtain ⟨rfl, hrest⟩ := List.cons.inj hsplit
    refine ⟨rfl, ?_, hne, hw, ?_, after, hafter, hrest⟩
    · rintro rfl
      exact hlast c rfl
    · cases before with
      | nil => exact nofun
      | cons b' before => rwa [List.getLast?_cons_cons] at hlast
  · rintro ⟨rfl, hfirst, hne, hw, hlast, after, hafter, rfl⟩
    refine ⟨hne, hw, ?_, after, hafter, rfl⟩
    cases before with
    | nil =>
      intro c' hc'
      obtain rfl := Option.some.inj hc'
      exact hfirst rfl
    | cons b' before => rwa [List.getLast?_cons_cons]

/-- The fields are the first one and those behind it, the first one if the text starts with it. -/
theorem mem_fieldsOf_of
    (h : w ∈ (cutFields p cs).2 ↔ ∃ before, before ≠ [] ∧ IsField p cs before w) :
    w ∈ fieldsOf p cs ↔ ∃ before, IsField p cs before w := by
  have hfirst : w ∈ fieldsOf p cs ↔ IsField p cs [] w ∨ w ∈ (cutFields p cs).2 := by
    rw [fieldsOf_eq, isField_nil_iff, ← fst_cutFields]
    split_ifs with hnil
    · refine ⟨.inr, fun hw => hw.resolve_left ?_⟩
      rintro ⟨hne, rfl⟩
      exact hne hnil
    · rw [List.mem_cons]
      refine or_congr_left ⟨fun hw => ⟨hw ▸ hnil, hw⟩, And.right⟩
  rw [hfirst, h]
  constructor
  · rintro (hw | ⟨before, -, hw⟩)
    · exact ⟨[], hw⟩
    · exact ⟨before, hw⟩
  · rintro ⟨before, hw⟩
    by_cases hbefore : before = []
    · exact .inl (hbefore ▸ hw)
    · exact .inr ⟨before, hbefore, hw⟩

/-- Behind the first field are those with something before them. -/
theorem mem_cutFields :
    w ∈ (cutFields p cs).2 ↔ ∃ before, before ≠ [] ∧ IsField p cs before w := by
  induction cs with
  | nil =>
    refine iff_of_false List.not_mem_nil ?_
    rintro ⟨before, hne, -, -, -, after, -, hsplit⟩
    exact hne (List.append_eq_nil_iff.mp hsplit.symm).1
  | cons c cs ih =>
    have hlater : (∃ before, before ≠ [] ∧ IsField p (c :: cs) before w) ↔
        ∃ before, (before = [] → p c = true) ∧ IsField p cs before w := by
      constructor
      · rintro ⟨before, hne, hw⟩
        obtain ⟨b, before, rfl⟩ := List.exists_cons_of_ne_nil hne
        exact ⟨before, (isField_cons_iff.mp hw).2⟩
      · rintro ⟨before, hw⟩
        exact ⟨c :: before, List.cons_ne_nil _ _, isField_cons_iff.mpr ⟨rfl, hw⟩⟩
    rw [cutFields_cons, hlater]
    split_ifs with hc
    · rw [mem_fieldsOf_of ih]
      exact exists_congr fun before => (and_iff_right fun _ => hc).symm
    · rw [ih]
      exact exists_congr fun before => and_congr_left fun _ => ⟨fun hne h => absurd h hne,
        fun h hnil => hc (h hnil)⟩

theorem mem_fieldsOf : w ∈ fieldsOf p cs ↔ ∃ before, IsField p cs before w :=
  mem_fieldsOf_of mem_cutFields

end Fields

end ColumnLint.Text
