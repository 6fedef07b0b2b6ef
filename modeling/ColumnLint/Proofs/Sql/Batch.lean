import ColumnLint.Proofs.Sql.Separator

/-!
# Separated batches

Separating the batches of a script works on its lines. `separatedLines` are the lines that are left,
up to blanks, and the first part of the main result, `separateBatches_lines`, says that these are
the lines of the new text: every line but the separators and the counts that they take is kept. The
second part says when each separator becomes a line with a semicolon and no other line is touched:
iff every separator keeps to its own line.
-/

namespace ColumnLint.Sql

open ColumnLint.Text

variable {b : Bool} {c : Char} {n : ℕ} {l x z cs : List Char} {ls rest after : List (List Char)}

/-! ### What becomes of the lines -/

/-- Whether a separator is put in front of the next one: only blank lines stand between, and the
last of them is empty. -/
def joinsNext (rest : List (List Char)) : Bool :=
  (rest.takeWhile isBlankLine).getLast? = some [] && (nextLine? rest).any isSeparatorLine

theorem behind_suffix (l : List Char) (rest : List (List Char)) : behind l rest <:+ rest := by
  unfold behind
  split_ifs
  · exact (List.tail_suffix _).trans (List.dropWhile_suffix _)
  · exact List.suffix_rfl

/-- The lines that are left of a text when its batches are separated, trimmed and without the blank
ones. -/
def separatedLines : List (List Char) → List (List Char)
  | [] => []
  | l :: rest =>
    if isBlankLine l then separatedLines rest
    else if isSeparatorLine l then
      if joinsNext (behind l rest) then (separatedLines (behind l rest)).modifyHead (';' :: ·)
      else [';'] :: separatedLines (behind l rest)
    else trimChars l :: separatedLines rest
termination_by ls => ls.length
decreasing_by
  all_goals
    have := (behind_suffix l rest).length_le
    simp only [List.length_cons]
    omega

theorem separatedLines_nil : separatedLines [] = [] := by
  rw [separatedLines]

theorem separatedLines_cons (l : List Char) (rest : List (List Char)) :
    separatedLines (l :: rest) =
      if isBlankLine l then separatedLines rest
      else if isSeparatorLine l then
        if joinsNext (behind l rest) then (separatedLines (behind l rest)).modifyHead (';' :: ·)
        else [';'] :: separatedLines (behind l rest)
      else trimChars l :: separatedLines rest := by
  rw [separatedLines]

theorem separatedLines_dropWhile (ls : List (List Char)) :
    separatedLines (ls.dropWhile isBlankLine) = separatedLines ls := by
  induction ls with
  | nil => rfl
  | cons l ls ih =>
    rw [List.dropWhile_cons, separatedLines_cons]
    split_ifs with hblank hseparator hjoins
    · exact ih
    all_goals rw [separatedLines_cons, if_neg hblank]
    · rw [if_pos hseparator, if_pos hjoins]
    · rw [if_pos hseparator, if_neg hjoins]
    · rw [if_neg hseparator]

/-! ### The run over a text -/

theorem markSeparators_of_none
    (h : (if b then afterSeparator? (c :: cs) else none) = none) :
    markSeparators (n + 1) b (c :: cs) = c :: markSeparators n (c = '\n') cs := by
  rw [markSeparators, h]

theorem markSeparators_of_some (h : afterSeparator? (c :: cs) = some (b, z)) :
    markSeparators (n + 1) true (c :: cs) = ';' :: markSeparators n b z := by
  rw [markSeparators, if_pos rfl, h]

/-- Inside a line nothing changes. -/
theorem markSeparators_inside (hx : '\n' ∉ x) (n : ℕ) (z : List Char) :
    markSeparators (x.length + n) false (x ++ z) = x ++ markSeparators n false z := by
  induction x with
  | nil => rw [List.length_nil, Nat.zero_add, List.nil_append, List.nil_append]
  | cons c x ih =>
    rw [List.mem_cons, not_or] at hx
    have hc : decide (c = '\n') = false := decide_eq_false (Ne.symm hx.1)
    rw [List.length_cons, Nat.add_right_comm, List.cons_append, markSeparators_of_none rfl, hc,
      ih hx.2, List.cons_append]

/-- A line at whose start no separator is found is kept. -/
theorem markSeparators_line (hx : '\n' ∉ x) (hnone : afterSeparator? (x ++ '\n' :: z) = none)
    (n : ℕ) :
    markSeparators (x.length + (n + 1)) true (x ++ '\n' :: z) =
      x ++ '\n' :: markSeparators n true z := by
  cases x with
  | nil =>
    rw [List.length_nil, Nat.zero_add, List.nil_append, List.nil_append,
      markSeparators_of_none (by rwa [if_pos rfl])]
    rfl
  | cons c x =>
    rw [List.mem_cons, not_or] at hx
    have hc : decide (c = '\n') = false := decide_eq_false (Ne.symm hx.1)
    rw [List.length_cons, Nat.add_right_comm, List.cons_append,
      markSeparators_of_none (by rwa [if_pos rfl]), hc, markSeparators_inside hx.2,
      markSeparators_of_none rfl, List.cons_append]
    rfl

theorem markSeparators_nil (n : ℕ) (b : Bool) : markSeparators n b [] = [] := by
  cases n <;> rfl

/-- The last line is kept when no separator is found at its start. -/
theorem markSeparators_last (hx : '\n' ∉ x) (hnone : afterSeparator? x = none) (n : ℕ) :
    markSeparators (x.length + n) true x = x := by
  cases x with
  | nil => rw [List.length_nil, Nat.zero_add, markSeparators_nil]
  | cons c x =>
    rw [List.mem_cons, not_or] at hx
    have hc : decide (c = '\n') = false := decide_eq_false (Ne.symm hx.1)
    have hinside := markSeparators_inside hx.2 n []
    rw [List.append_nil, markSeparators_nil, List.append_nil] at hinside
    rw [List.length_cons, Nat.add_right_comm, markSeparators_of_none (by rwa [if_pos rfl]), hc,
      hinside]

theorem length_furtherLines_le (h : ls <:+ rest) :
    (furtherLines ls).length ≤ (furtherLines rest).length := by
  obtain ⟨before, rfl⟩ := h
  rw [furtherLines_append, List.length_append]
  omega

/-- Behind a separator, the next one is found at once or its line is a new one. -/
theorem markSeparators_remainder (hls : ∀ l' ∈ l :: rest, '\n' ∉ l')
    (hblank : isBlankLine l = false) (b : Bool) (n : ℕ) :
    markSeparators (n + 1) b (furtherLines (l :: rest)) =
      if b && isSeparatorLine l then
        ';' :: markSeparators n (remainder (behind l rest)).1 (remainder (behind l rest)).2
      else '\n' :: markSeparators n true (l ++ furtherLines rest) := by
  obtain ⟨hl, hrest⟩ := List.forall_mem_cons.mp hls
  have hstart := afterSeparator?_line (x := ['\n']) isBlank_lineFeed hl hblank hrest
  rw [List.singleton_append] at hstart
  rw [furtherLines_cons]
  cases b with
  | false =>
    rw [markSeparators_of_none (by rfl), Bool.false_and, if_neg Bool.false_ne_true]
    rfl
  | true =>
    rw [Bool.true_and]
    by_cases hseparator : isSeparatorLine l = true
    · rw [if_pos hseparator] at hstart ⊢
      exact markSeparators_of_some hstart
    · rw [if_neg hseparator] at hstart ⊢
      rw [markSeparators_of_none (by rwa [if_pos rfl])]
      rfl

/-- A separator in front of another character. -/
theorem written_separator_cons (cs : List Char) :
    written (linesOf (';' :: ';' :: cs)) =
      (written (linesOf (';' :: cs))).modifyHead (';' :: ·) := by
  obtain ⟨l, ls, hlines, -⟩ := exists_linesOf cs
  have hfirst := linesOf_cons_of_ne (c := ';') (by decide) hlines
  have hsecond := linesOf_cons_of_ne (c := ';') (by decide) hfirst
  have hne : trimChars (';' :: l) ≠ [] := by
    rw [Ne, trimChars_eq_nil_iff]
    exact fun h => absurd (h ';' List.mem_cons_self) (by decide)
  rw [hfirst, hsecond, written_cons, written_cons, trimChars_cons_cons (by decide) (by decide),
    if_neg (List.cons_ne_nil _ _), if_neg hne, List.modifyHead_cons]

theorem length_remainder_lt (h : (l :: rest).dropWhile isBlankLine = x :: after) :
    (furtherLines ((behind x after).dropWhile isBlankLine)).length <
      (l ++ furtherLines rest).length := by
  have hx : x ≠ [] := by
    rintro rfl
    exact Bool.noConfusion (isBlankLine_of_dropWhile h)
  have hdrop := length_furtherLines_le ((List.dropWhile_suffix isBlankLine).trans
    (behind_suffix x after))
  have hlines := length_furtherLines_le (h ▸ List.dropWhile_suffix isBlankLine : _ <:+ l :: rest)
  rw [furtherLines_cons, furtherLines_cons, List.length_cons, List.length_cons,
    List.length_append] at hlines
  have hpos := List.length_pos_iff.mpr hx
  omega

theorem separatedLines_of_none (hls : ∀ l' ∈ l :: rest, '\n' ∉ l')
    (hnone : afterSeparator? (l ++ furtherLines rest) = none) :
    separatedLines (l :: rest) =
      if trimChars l = [] then separatedLines rest else trimChars l :: separatedLines rest := by
  rw [separatedLines_cons]
  by_cases hblank : isBlankLine l = true
  · rw [if_pos hblank, if_pos (isBlankLine_iff_trimChars.mp hblank)]
  · have hnot : isSeparatorLine l = false := by
      obtain ⟨hl, hrest⟩ := List.forall_mem_cons.mp hls
      rw [Bool.not_eq_true] at hblank
      have hfound := afterSeparator?_line (x := []) (by simp) hl hblank hrest
      rw [List.nil_append, hnone] at hfound
      by_contra hseparator
      rw [Bool.not_eq_false] at hseparator
      rw [if_pos hseparator] at hfound
      exact nomatch hfound
    rw [if_neg hblank, hnot, if_neg Bool.false_ne_true,
      if_neg (mt isBlankLine_iff_trimChars.mpr hblank)]

/-- A run from the start of a line leaves the lines that are due. -/
def LeavesLines (n : ℕ) : Prop :=
  ∀ l rest, (∀ l' ∈ l :: rest, '\n' ∉ l') → (l ++ furtherLines rest).length ≤ n →
    written (linesOf (markSeparators n true (l ++ furtherLines rest))) = separatedLines (l :: rest)

/-- The run behind a separator: the text that it leaves either starts with the line feed before the
next line or, in front of the next separator, loses that as well. -/
theorem written_separator (ih : ∀ m ≤ n, LeavesLines m) (hls : ∀ l ∈ ls, '\n' ∉ l)
    (hn : (furtherLines (ls.dropWhile isBlankLine)).length ≤ n) :
    written (linesOf (';' :: markSeparators n (remainder ls).1 (remainder ls).2)) =
      if joinsNext ls then (separatedLines ls).modifyHead (';' :: ·)
      else [';'] :: separatedLines ls := by
  rw [joinsNext, nextLine?, ← separatedLines_dropWhile ls, remainder]
  cases hdrop : ls.dropWhile isBlankLine with
  | nil =>
    rw [furtherLines_nil, markSeparators_nil, separatedLines_nil, List.head?_nil, Option.any_none,
      Bool.and_false, if_neg Bool.false_ne_true]
    rfl
  | cons l rest =>
    rw [hdrop] at hn
    have hblank := isBlankLine_of_dropWhile hdrop
    obtain ⟨hl, hrest⟩ := lines_of_dropWhile hls hdrop
    obtain ⟨k, rfl⟩ : ∃ k, n = k + 1 := by
      rw [furtherLines_cons, List.length_cons] at hn
      exact Nat.exists_eq_succ_of_ne_zero (by omega)
    rw [List.head?_cons, Option.any_some]
    generalize decide ((ls.takeWhile isBlankLine).getLast? = some []) = b
    have hstep := markSeparators_remainder (List.forall_mem_cons.mpr ⟨hl, hrest⟩) hblank b k
    by_cases hjoins : (b && isSeparatorLine l) = true
    · -- the line feed before the next separator goes with it
      obtain ⟨rfl, -⟩ := Bool.and_eq_true_iff.mp hjoins
      have hnext := ih (k + 1) le_rfl [] (l :: rest)
        (List.forall_mem_cons.mpr ⟨by simp, List.forall_mem_cons.mpr ⟨hl, hrest⟩⟩) hn
      rw [List.nil_append, separatedLines_cons, if_pos (by rfl)] at hnext
      rw [if_pos hjoins] at hstep ⊢
      rw [← hnext, hstep, written_separator_cons]
    · rw [if_neg hjoins] at hstep ⊢
      rw [furtherLines_cons, List.length_cons] at hn
      have hnext := ih k (by omega) l rest (List.forall_mem_cons.mpr ⟨hl, hrest⟩) (by omega)
      have hline := linesOf_append (x := [';']) (by decide)
        (markSeparators k true (l ++ furtherLines rest))
      rw [hstep, ← List.singleton_append, hline, written_cons, hnext]
      rfl

/-- A step over a line at whose start no separator is found. -/
theorem written_line (ih : ∀ m < n, LeavesLines m) (hls : ∀ l' ∈ l :: rest, '\n' ∉ l')
    (hn : (l ++ furtherLines rest).length ≤ n)
    (hnone : afterSeparator? (l ++ furtherLines rest) = none) :
    written (linesOf (markSeparators n true (l ++ furtherLines rest))) =
      separatedLines (l :: rest) := by
  obtain ⟨hl, hrest⟩ := List.forall_mem_cons.mp hls
  rw [separatedLines_of_none hls hnone]
  cases rest with
  | nil =>
    rw [furtherLines_nil, List.append_nil] at hnone hn ⊢
    obtain ⟨k, rfl⟩ := Nat.exists_eq_add_of_le hn
    rw [markSeparators_last hl hnone, linesOf_of_notMem hl, written_cons, separatedLines_nil]
    rfl
  | cons l' r =>
    rw [furtherLines_cons] at hnone hn ⊢
    rw [List.length_append, List.length_cons] at hn
    obtain ⟨k, rfl⟩ := Nat.exists_eq_add_of_le (by omega : l.length + 1 ≤ n)
    rw [Nat.add_assoc, Nat.add_comm 1, markSeparators_line hl hnone, linesOf_append hl,
      written_cons, ih k (by omega) l' r hrest (by omega)]

/-- A step over a separator, with the blank lines before it. -/
theorem written_first_separator (ih : ∀ m < n, LeavesLines m)
    (hls : ∀ l' ∈ l :: rest, '\n' ∉ l') (hn : (l ++ furtherLines rest).length ≤ n)
    (hdrop : (l :: rest).dropWhile isBlankLine = x :: after)
    (hseparator : isSeparatorLine x = true) :
    written (linesOf (markSeparators n true (l ++ furtherLines rest))) =
      separatedLines (l :: rest) := by
  have hfound := afterSeparator?_lines hls hdrop
  have hlength := length_remainder_lt hdrop
  have hbehind : ∀ l' ∈ behind x after, '\n' ∉ l' :=
    fun l' hl' => (lines_of_dropWhile hls hdrop).2 l' ((behind_suffix x after).subset hl')
  obtain ⟨k, rfl⟩ := Nat.exists_eq_succ_of_ne_zero (by omega : n ≠ 0)
  rw [if_pos hseparator] at hfound
  cases htext : l ++ furtherLines rest with
  | nil =>
    rw [htext] at hlength
    exact absurd hlength (Nat.not_lt_zero _)
  | cons c cs =>
    rw [htext] at hfound
    rw [← separatedLines_dropWhile, hdrop, separatedLines_cons, isBlankLine_of_dropWhile hdrop,
      if_neg Bool.false_ne_true, if_pos hseparator, markSeparators_of_some hfound]
    exact written_separator (fun m hm => ih m (Nat.lt_succ_of_le hm)) hbehind (by omega)

/-- The run from the start of a line, by induction on what is left of the text. -/
theorem leavesLines (n : ℕ) : LeavesLines n := by
  induction n using Nat.strong_induction_on with
  | _ n ih =>
    intro l rest hls hn
    cases hdrop : (l :: rest).dropWhile isBlankLine with
    | nil => exact written_line ih hls hn (afterSeparator?_of_blank_lines hdrop)
    | cons x after =>
      have hlines := afterSeparator?_lines hls hdrop
      split_ifs at hlines with hseparator
      · exact written_first_separator ih hls hn hdrop hseparator
      · exact written_line ih hls hn hlines

/-! ### Semicolons for separators -/

/-- The lines that are not blank, trimmed, with a semicolon for every separator. -/
def replacedLines (ls : List (List Char)) : List (List Char) :=
  (ls.filter (!isBlankLine ·)).map fun l => if isSeparatorLine l then [';'] else trimChars l

/-- Whether every separator keeps to its own line: it neither takes the next line for its count nor
joins the next separator. -/
def KeepToLines (ls : List (List Char)) : Prop :=
  ∀ l rest, l :: rest <:+ ls → isSeparatorLine l = true →
    takesCount l rest = false ∧ joinsNext rest = false

theorem keepToLines_cons (l : List Char) (rest : List (List Char)) :
    KeepToLines (l :: rest) ↔
      (isSeparatorLine l = true → takesCount l rest = false ∧ joinsNext rest = false) ∧
        KeepToLines rest := by
  constructor
  · intro h
    refine ⟨h l rest List.suffix_rfl, fun x after hx => ?_⟩
    exact h x after (hx.trans (List.suffix_cons l rest))
  · rintro ⟨hfirst, hrest⟩ x after hx
    obtain heq | hx := List.suffix_cons_iff.mp hx
    · obtain ⟨rfl, rfl⟩ := List.cons.inj heq
      exact hfirst
    · exact hrest x after hx

theorem replacedLines_cons (l : List Char) (rest : List (List Char)) :
    replacedLines (l :: rest) =
      if isBlankLine l then replacedLines rest
      else (if isSeparatorLine l then [';'] else trimChars l) :: replacedLines rest := by
  unfold replacedLines
  rw [List.filter_cons]
  cases isBlankLine l <;> rfl

theorem isSeparatorLine_of_blank (h : isBlankLine l = true) : isSeparatorLine l = false := by
  rw [isSeparatorLine, isBlankLine_iff_trimChars.mp h]
  rfl

theorem behind_of_not_takesCount (h : takesCount l rest = false) : behind l rest = rest := by
  rw [behind, h, if_neg Bool.false_ne_true]

theorem length_replacedLines_le (h : ls <:+ rest) :
    (replacedLines ls).length ≤ (replacedLines rest).length := by
  unfold replacedLines
  rw [List.length_map, List.length_map]
  exact (h.sublist.filter _).length_le

/-- A separator that takes a count loses a line. -/
theorem length_replacedLines_behind_lt (h : takesCount l rest = true) :
    (replacedLines (behind l rest)).length < (replacedLines rest).length := by
  have hnext := (Bool.and_eq_true_iff.mp h).2
  rw [behind, if_pos h]
  rw [nextLine?] at hnext
  cases hdrop : rest.dropWhile isBlankLine with
  | nil =>
    rw [hdrop] at hnext
    exact absurd hnext Bool.false_ne_true
  | cons x after =>
    have hsuffix := length_replacedLines_le (List.dropWhile_suffix isBlankLine (l := rest))
    rw [hdrop, replacedLines_cons, isBlankLine_of_dropWhile hdrop, if_neg Bool.false_ne_true,
      List.length_cons] at hsuffix
    exact hsuffix

theorem length_separatedLines_le (ls : List (List Char)) :
    (separatedLines ls).length ≤ (replacedLines ls).length := by
  fun_induction separatedLines ls with
  | case1 => exact le_rfl
  | case2 l rest hblank ih =>
    rwa [replacedLines_cons, if_pos hblank]
  | case3 l rest hblank hseparator hjoins ih =>
    have hbehind := length_replacedLines_le (behind_suffix l rest)
    rw [replacedLines_cons, if_neg hblank, List.length_cons, List.length_modifyHead]
    omega
  | case4 l rest hblank hseparator hjoins ih =>
    have hbehind := length_replacedLines_le (behind_suffix l rest)
    rw [replacedLines_cons, if_neg hblank, List.length_cons, List.length_cons]
    omega
  | case5 l rest hblank hseparator ih =>
    rw [replacedLines_cons, if_neg hblank, List.length_cons, List.length_cons]
    omega

/-- A separator that does not keep to its line costs a line. -/
theorem length_separatedLines_lt (hblank : isBlankLine l = false)
    (hseparator : isSeparatorLine l = true)
    (h : ¬ (takesCount l rest = false ∧ joinsNext rest = false)) :
    (separatedLines (l :: rest)).length < (replacedLines (l :: rest)).length := by
  have hle := length_separatedLines_le (behind l rest)
  rw [separatedLines_cons, replacedLines_cons, hblank, if_neg Bool.false_ne_true,
    if_neg Bool.false_ne_true, if_pos hseparator, List.length_cons]
  by_cases htakes : takesCount l rest = true
  · have hlt := length_replacedLines_behind_lt htakes
    split_ifs
    · rw [List.length_modifyHead]
      omega
    · rw [List.length_cons]
      omega
  · rw [Bool.not_eq_true] at htakes
    rw [behind_of_not_takesCount htakes] at hle ⊢
    have hjoins : joinsNext rest = true := by
      by_contra hnot
      exact h ⟨htakes, Bool.not_eq_true _ ▸ hnot⟩
    rw [if_pos hjoins, List.length_modifyHead]
    omega

/-- The lines are those with semicolons for separators iff every separator keeps to its line. -/
theorem separatedLines_eq_iff (ls : List (List Char)) :
    separatedLines ls = replacedLines ls ↔ KeepToLines ls := by
  induction ls with
  | nil =>
    rw [separatedLines_nil]
    exact iff_of_true rfl fun l rest h => absurd (List.eq_nil_of_suffix_nil h) (by simp)
  | cons l rest ih =>
    rw [keepToLines_cons, ← ih]
    cases hblank : isBlankLine l with
    | true =>
      rw [separatedLines_cons, replacedLines_cons, if_pos hblank, if_pos hblank,
        isSeparatorLine_of_blank hblank]
      simp
    | false =>
      cases hseparator : isSeparatorLine l with
      | false =>
        rw [separatedLines_cons, replacedLines_cons, hblank, hseparator]
        simp
      | true =>
        by_cases hkeeps : takesCount l rest = false ∧ joinsNext rest = false
        · rw [separatedLines_cons, replacedLines_cons, hblank, hseparator,
            behind_of_not_takesCount hkeeps.1, hkeeps.2]
          simp [hkeeps]
        · have hlength := length_separatedLines_lt hblank hseparator hkeeps
          refine iff_of_false (fun h => ?_) (fun h => hkeeps (h.1 rfl))
          rw [h] at hlength
          exact lt_irrefl _ hlength

/-- Separating batches leaves `separatedLines`; these are the lines of the text with semicolons for
the separators iff every separator keeps to its own line. -/
theorem separateBatches_lines (s : String) :
    written (linesOf (separateBatches s).toList) = separatedLines (linesOf s.toList) ∧
      (written (linesOf (separateBatches s).toList) = replacedLines (linesOf s.toList) ↔
        KeepToLines (linesOf s.toList)) := by
  obtain ⟨l, rest, hlines, htext, hl, hrest⟩ := exists_linesOf s.toList
  have hrun := leavesLines s.length l rest (List.forall_mem_cons.mpr ⟨hl, hrest⟩)
    (by rw [← htext, String.length_toList])
  rw [← htext, ← hlines] at hrun
  rw [separateBatches, String.toList_ofList, hrun]
  exact ⟨rfl, separatedLines_eq_iff _⟩

/-- A line of digits behind a separator is lost. -/
theorem separateBatches_line_lost :
    written (linesOf (separateBatches "SELECT 1\nGO\n5\nSELECT 2").toList) ≠
      replacedLines (linesOf "SELECT 1\nGO\n5\nSELECT 2".toList) := by
  decide +kernel

end ColumnLint.Sql
