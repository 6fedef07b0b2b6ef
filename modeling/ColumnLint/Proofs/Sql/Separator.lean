import ColumnLint.Proofs.Text.Lines
import ColumnLint.Sql.Preparation
import Mathlib.Data.List.Infix

/-!
# Batch separators

A separator is the word `GO` on a line of its own, with a count behind it or without one
(`isSeparatorLine`). What is read as one can be more than its line: the blank lines before it, the
blank lines behind it but the line feed of the last, and, behind the bare word, the next line that
holds a count only (`behind`). The main result, `afterSeparator?_lines`, says what is found at the
start of a line of a text and what is left behind it.
-/

namespace ColumnLint.Sql

open ColumnLint.Text

/-! ### Lines -/

/-- Whether a line holds nothing but blanks. -/
def isBlankLine (l : List Char) : Bool :=
  l.all isBlank

/-- Whether a line is the word `GO` in any case. -/
def isBareSeparator (l : List Char) : Bool :=
  (trimChars l).map Char.toLower = ['g', 'o']

/-- Whether a line is the word `GO` in any case, with a count behind it or without one. -/
def isSeparatorLine (l : List Char) : Bool :=
  ((trimChars l).map Char.toLower).take 2 = ['g', 'o'] &&
    (trimChars ((trimChars l).drop 2)).all isDecimalDigit

/-- Whether a line is a count. -/
def isCountLine (l : List Char) : Bool :=
  trimChars l ≠ [] && (trimChars l).all isDecimalDigit

/-- The next line that is not blank. -/
def nextLine? (ls : List (List Char)) : Option (List Char) :=
  (ls.dropWhile isBlankLine).head?

/-- Whether a separator takes the next line that is not blank for its count. -/
def takesCount (l : List Char) (rest : List (List Char)) : Bool :=
  isBareSeparator l && (nextLine? rest).any isCountLine

/-- The lines behind a separator and its count. -/
def behind (l : List Char) (rest : List (List Char)) : List (List Char) :=
  if takesCount l rest then (rest.dropWhile isBlankLine).tail else rest

variable {c d : Char} {l t w x y : List Char} {ls rest after : List (List Char)}

theorem isBlankLine_iff : isBlankLine l = true ↔ ∀ c ∈ l, isBlank c = true :=
  List.all_eq_true

theorem isBlankLine_iff_trimChars : isBlankLine l = true ↔ trimChars l = [] := by
  rw [isBlankLine_iff, trimChars_eq_nil_iff]

/-! ### Blanks at the ends of lines -/

/-- The code points of the blanks. -/
def blankCodes : List ℕ :=
  [0x9, 0xA, 0xB, 0xC, 0xD, 0x1C, 0x1D, 0x1E, 0x1F, 0x20, 0x85, 0xA0, 0x1680, 0x2000, 0x2001,
    0x2002, 0x2003, 0x2004, 0x2005, 0x2006, 0x2007, 0x2008, 0x2009, 0x200A, 0x2028, 0x2029, 0x202F,
    0x205F, 0x3000]

theorem mem_blankCodes (h : isBlank c = true) : c.toNat ∈ blankCodes := by
  simp only [isBlank, Bool.or_eq_true, Bool.and_eq_true, decide_eq_true_eq, beq_iff_eq] at h
  simp only [blankCodes, List.mem_cons, List.not_mem_nil, or_false]
  omega

/-- A blank is neither a digit nor a letter of the word. -/
theorem blank_not_special (h : isBlank c = true) :
    isDecimalDigit c = false ∧ c.toLower ≠ 'o' := by
  have htable : ∀ n ∈ blankCodes,
      isDecimalDigit (Char.ofNat n) = false ∧ (Char.ofNat n).toLower ≠ 'o' := by
    decide +kernel
  have hc := htable c.toNat (mem_blankCodes h)
  rwa [Char.ofNat_toNat] at hc

theorem isBlank_lineFeed : ∀ c ∈ ['\n'], isBlank c = true :=
  List.forall_mem_singleton.mpr rfl

/-- Blanks before a character that is none, with their last line feed or without one. -/
theorem blanksToLineEnd?_append_cons (hx : ∀ c ∈ x, isBlank c = true) (hd : isBlank d = false)
    (z : List Char) :
    blanksToLineEnd? (x ++ d :: z) =
      match x.reverse.span (· ≠ '\n') with
      | (_, []) => none
      | (after, _ :: before) => some (before.reverse, '\n' :: after.reverse ++ d :: z) := by
  have htake : (x ++ d :: z).takeWhile isBlank = x := by
    rw [List.takeWhile_append_of_pos hx, List.takeWhile_cons, hd, if_neg Bool.false_ne_true,
      List.append_nil]
  have hdrop : (x ++ d :: z).dropWhile isBlank = d :: z := by
    rw [List.dropWhile_append_of_pos hx, List.dropWhile_cons, hd, if_neg Bool.false_ne_true]
  unfold blanksToLineEnd?
  rw [htake, hdrop]
  rfl

/-- A line without blanks at its start, and the blanks there. -/
theorem exists_first_not_blank (h : isBlankLine l = false) :
    ∃ u d t, l = u ++ d :: t ∧ (∀ c ∈ u, isBlank c = true) ∧ isBlank d = false := by
  obtain ⟨u, w, hsplit, hu, -, ht⟩ := exists_trimChars l
  cases hcase : trimChars l with
  | nil =>
    rw [isBlankLine_iff.mpr ((trimChars_eq_nil_iff l).mp hcase)] at h
    exact absurd h Bool.noConfusion
  | cons d t =>
    rw [hcase] at hsplit ht
    exact ⟨u, d, t ++ w, by rw [hsplit, List.append_assoc]; rfl, hu, ht.first d t rfl⟩

/-- The characters behind the last line feed are found from the end. -/
theorem span_reverse (hx : '\n' ∉ x) (y : List Char) :
    (y ++ x).reverse.span (· ≠ '\n') =
      (x.reverse ++ y.reverse.takeWhile (· ≠ '\n'), y.reverse.dropWhile (· ≠ '\n')) := by
  have hne : ∀ c ∈ x.reverse, decide (c ≠ '\n') = true := by
    intro c hc
    rw [decide_eq_true_eq]
    rintro rfl
    exact hx (List.mem_reverse.mp hc)
  rw [List.span_eq_takeWhile_dropWhile, List.reverse_append, List.takeWhile_append_of_pos hne,
    List.dropWhile_append_of_pos hne]

/-- No line ends in a part of a line that is not blank. -/
theorem blanksToLineEnd?_of_not_blank (hl : '\n' ∉ l) (hblank : isBlankLine l = false)
    (z : List Char) : blanksToLineEnd? (l ++ z) = none := by
  obtain ⟨u, d, t, rfl, hu, hd⟩ := exists_first_not_blank hblank
  have hspan := span_reverse (fun h => hl (List.mem_append_left _ h)) []
  rw [List.append_assoc, List.cons_append, blanksToLineEnd?_append_cons hu hd, ← List.nil_append u,
    hspan]
  rfl

theorem furtherLines_split (ls : List (List Char)) :
    furtherLines ls =
      furtherLines (ls.takeWhile isBlankLine) ++ furtherLines (ls.dropWhile isBlankLine) := by
  rw [← furtherLines_append, List.takeWhile_append_dropWhile]

theorem isBlankLine_of_dropWhile (h : ls.dropWhile isBlankLine = l :: rest) :
    isBlankLine l = false := by
  have hhead := List.head?_dropWhile_not isBlankLine ls
  rwa [h] at hhead

theorem lines_of_dropWhile (hls : ∀ l' ∈ ls, '\n' ∉ l')
    (h : ls.dropWhile isBlankLine = l :: rest) : '\n' ∉ l ∧ ∀ l' ∈ rest, '\n' ∉ l' :=
  List.forall_mem_cons.mp fun l' hl' => hls l' ((List.dropWhile_sublist _).subset (h ▸ hl'))

theorem blank_of_mem_lines (hw : ∀ c ∈ w, isBlank c = true) (ls : List (List Char)) :
    ∀ c ∈ w ++ furtherLines (ls.takeWhile isBlankLine), isBlank c = true := by
  refine List.forall_mem_append.mpr ⟨hw, fun c hc => ?_⟩
  obtain ⟨l, hl, hcl⟩ := List.mem_flatMap.mp hc
  obtain rfl | hcl := List.mem_cons.mp hcl
  · decide
  · exact isBlankLine_iff.mp (List.mem_takeWhile_imp hl) c hcl

/-- Blanks and the blank lines behind them are taken up to the last of these. -/
theorem blanksToLineEnd?_of_blank (hw : ∀ c ∈ w, isBlank c = true)
    (hrest : ∀ l ∈ rest, '\n' ∉ l) :
    blanksToLineEnd? (w ++ furtherLines rest) =
      some (w ++ furtherLines (rest.takeWhile isBlankLine),
        furtherLines (rest.dropWhile isBlankLine)) := by
  have hblank := blank_of_mem_lines hw rest
  conv_lhs => rw [furtherLines_split rest, ← List.append_assoc]
  cases hcase : rest.dropWhile isBlankLine with
  | nil =>
    have htake := List.takeWhile_eq_self_iff.mpr hblank
    have hdrop := List.dropWhile_eq_nil_iff.mpr hblank
    unfold blanksToLineEnd?
    rw [furtherLines_nil, List.append_nil, htake, hdrop]
    rfl
  | cons l r =>
    obtain ⟨hl, -⟩ := lines_of_dropWhile hrest hcase
    obtain ⟨u, d, t, rfl, hu, hd⟩ := exists_first_not_blank (isBlankLine_of_dropWhile hcase)
    have hall : ∀ c ∈ w ++ furtherLines (rest.takeWhile isBlankLine) ++ ['\n'] ++ u,
        isBlank c = true :=
      List.forall_mem_append.mpr ⟨List.forall_mem_append.mpr ⟨hblank, isBlank_lineFeed⟩, hu⟩
    have hspan := span_reverse (fun h => hl (List.mem_append_left _ h))
      (w ++ furtherLines (rest.takeWhile isBlankLine) ++ ['\n'])
    have htext :
        w ++ furtherLines (rest.takeWhile isBlankLine) ++ furtherLines ((u ++ d :: t) :: r) =
          w ++ furtherLines (rest.takeWhile isBlankLine) ++ ['\n'] ++ u ++
            d :: (t ++ furtherLines r) := by
      simp [furtherLines_cons]
    rw [htext, blanksToLineEnd?_append_cons hall hd, hspan]
    simp [furtherLines_cons]

/-- The last of the taken blanks is a line feed iff the last of the blank lines is empty. -/
theorem getLast?_blanks (hw : '\n' ∉ w) (hls : ∀ l ∈ ls, '\n' ∉ l) :
    (w ++ furtherLines ls).getLast? = some '\n' ↔ ls.getLast? = some [] := by
  have hother : ∀ {x : List Char}, '\n' ∉ x → x.getLast? ≠ some '\n' :=
    fun hx h => hx (List.mem_of_getLast? h)
  induction ls using List.reverseRecOn with
  | nil =>
    rw [furtherLines_nil, List.append_nil]
    exact ⟨fun h => absurd h (hother hw), fun h => by simp at h⟩
  | append_singleton ls l =>
    have hl := hls l (by simp)
    rw [furtherLines_append, List.getLast?_concat, ← List.append_assoc, furtherLines_cons,
      furtherLines_nil, List.append_nil]
    cases l with
    | nil => simp
    | cons c l =>
      rw [List.getLast?_append_of_ne_nil _ (by simp), List.getLast?_cons_cons]
      exact ⟨fun h => absurd h (hother hl), fun h => by simp at h⟩

/-! ### Behind the word -/

/-- What remains after a count and blanks up to the end of a line. -/
def afterCount? (cs : List Char) : Option (List Char × List Char) :=
  let digits := cs.takeWhile isDecimalDigit
  if digits.isEmpty then none else blanksToLineEnd? (cs.drop digits.length)

/-- Whether the taken blanks end in a line feed, and the rest. -/
def withLineStart (found : List Char × List Char) : Bool × List Char :=
  (found.1.getLast? == some '\n', found.2)

theorem afterSeparator?_eq (cs : List Char) :
    afterSeparator? cs =
      (dropWord? "GO".toList (cs.dropWhile isBlank)).bind fun tail =>
        ((afterCount? (tail.dropWhile isBlank)).or (blanksToLineEnd? tail)).map withLineStart := by
  unfold afterSeparator? afterCount?
  simp only [Option.pure_def, Option.bind_eq_bind, Option.map_eq_bind]
  rfl

theorem dropWord?_go (cs : List Char) :
    dropWord? "GO".toList cs =
      if (cs.map Char.toLower).take 2 = ['g', 'o'] then some (cs.drop 2) else none := by
  have hg : ∀ c : Char, sameLetter 'G' c = true ↔ c.toLower = 'g' := by
    intro c
    simp [sameLetter, show 'G'.toLower = 'g' from rfl]
  have ho : ∀ c : Char, sameLetter 'O' c = true ↔ c.toLower = 'o' := by
    intro c
    simp [sameLetter, show 'O'.toLower = 'o' from rfl]
  match cs with
  | [] => rfl
  | [c] =>
    show (if sameLetter 'G' c then none else none) = _
    simp
  | c :: d :: r =>
    show (if sameLetter 'G' c then if sameLetter 'O' d then some r else none else none) = _
    simp only [hg, ho, List.take_succ_cons, List.take_zero, List.map_cons,
      List.cons.injEq, and_true, List.drop_succ_cons, List.drop_zero]
    split_ifs <;> simp_all

/-- Blanks behind a text do not complete the word. -/
theorem dropWord?_go_append (ht : t ≠ []) (hy : ∀ c ∈ y.head?, isBlank c = true) :
    dropWord? "GO".toList (t ++ y) =
      if (t.map Char.toLower).take 2 = ['g', 'o'] then some (t.drop 2 ++ y) else none := by
  rw [dropWord?_go]
  match t, ht with
  | [c], _ =>
    cases y with
    | nil => simp
    | cons d y =>
      have hd := (blank_not_special (hy d rfl)).2
      simp [hd]
  | c :: d :: r, _ => rfl

/-- A count is the whole of a line. -/
theorem afterCount?_append (ht : IsTrimmed t) (hne : t ≠ []) (hline : '\n' ∉ t)
    (hy : ∀ c ∈ y.head?, isBlank c = true) :
    afterCount? (t ++ y) = if t.all isDecimalDigit then blanksToLineEnd? y else none := by
  have hstop : y.takeWhile isDecimalDigit = [] := by
    cases y with
    | nil => rfl
    | cons c y =>
      rw [List.takeWhile_cons, (blank_not_special (hy c rfl)).1, if_neg Bool.false_ne_true]
  unfold afterCount?
  rw [List.takeWhile_append]
  by_cases hall : t.all isDecimalDigit = true
  · have htake := List.takeWhile_eq_self_iff.mpr (List.all_eq_true.mp hall)
    rw [htake, if_pos rfl, if_pos hall, hstop, List.append_nil]
    simp only [List.isEmpty_iff, hne, if_false, List.drop_left]
  · rw [if_neg hall]
    have hsplit := List.takeWhile_append_dropWhile (p := isDecimalDigit) (l := t)
    have hrest : t.dropWhile isDecimalDigit ≠ [] := by
      rw [Ne, List.dropWhile_eq_nil_iff, ← List.all_eq_true]
      exact hall
    have hlength : (t.takeWhile isDecimalDigit).length ≠ t.length := by
      intro h
      have hcount := congrArg List.length hsplit
      rw [List.length_append, h] at hcount
      exact hrest (List.eq_nil_of_length_eq_zero (by omega))
    rw [if_neg hlength]
    have hdrop : (t ++ y).drop (t.takeWhile isDecimalDigit).length =
        t.dropWhile isDecimalDigit ++ y := by
      have hleft : (t.takeWhile isDecimalDigit ++ (t.dropWhile isDecimalDigit ++ y)).drop
          (t.takeWhile isDecimalDigit).length = t.dropWhile isDecimalDigit ++ y := List.drop_left
      rwa [← List.append_assoc, hsplit] at hleft
    have hblank : isBlankLine (t.dropWhile isDecimalDigit) = false := by
      rw [← Bool.not_eq_true, isBlankLine_iff]
      rw [← hsplit] at ht
      exact ht.not_all_blank hrest
    have hnone := blanksToLineEnd?_of_not_blank
      (fun h => hline ((List.dropWhile_sublist _).subset h)) hblank y
    simp only [hdrop, hnone, ite_self]

/-! ### Separators among lines -/

/-- What a separator leaves of the lines behind it: whether the blank lines that it takes end in an
empty one, and the text behind these. -/
def remainder (ls : List (List Char)) : Bool × List Char :=
  (decide ((ls.takeWhile isBlankLine).getLast? = some []), furtherLines (ls.dropWhile isBlankLine))

theorem map_withLineStart (hw : ∀ c ∈ w, isBlank c = true) (hline : '\n' ∉ w)
    (hls : ∀ l ∈ ls, '\n' ∉ l) :
    (blanksToLineEnd? (w ++ furtherLines ls)).map withLineStart = some (remainder ls) := by
  have hblanks : ∀ l ∈ ls.takeWhile isBlankLine, '\n' ∉ l :=
    fun l hl => hls l ((List.takeWhile_sublist _).subset hl)
  have hlast := getLast?_blanks hline hblanks
  rw [blanksToLineEnd?_of_blank hw hls, Option.map_some, withLineStart, remainder,
    Option.some_inj, Prod.mk.injEq]
  exact ⟨by rw [beq_eq_decide, decide_eq_decide, hlast], rfl⟩

theorem head?_blanks (hw : ∀ c ∈ w, isBlank c = true) (ls : List (List Char)) :
    ∀ c ∈ (w ++ furtherLines ls).head?, isBlank c = true := by
  intro c hc
  match w, ls with
  | d :: w, _ =>
    obtain rfl := Option.some.inj hc
    exact hw d List.mem_cons_self
  | [], [] => cases hc
  | [], l :: ls =>
    obtain rfl := Option.some.inj hc
    decide

/-- A line that is not blank, read behind blanks. -/
theorem exists_dropWhile_line (hl : '\n' ∉ l) (hblank : isBlankLine l = false) :
    IsTrimmed (trimChars l) ∧ trimChars l ≠ [] ∧ '\n' ∉ trimChars l ∧
      ∃ w, (∀ c ∈ w, isBlank c = true) ∧ '\n' ∉ w ∧
        ∀ x, (∀ c ∈ x, isBlank c = true) → ∀ z,
          (x ++ (l ++ z)).dropWhile isBlank = trimChars l ++ (w ++ z) := by
  obtain ⟨u, w, hsplit, hu, hw, ht⟩ := exists_trimChars l
  have hne : trimChars l ≠ [] := by
    intro h
    rw [isBlankLine_iff.mpr ((trimChars_eq_nil_iff l).mp h)] at hblank
    exact Bool.noConfusion hblank
  refine ⟨ht, hne, fun h => hl (mem_of_mem_trimChars h), w, hw, ?_, ?_⟩
  · intro h
    exact hl (by rw [hsplit]; exact List.mem_append_right _ h)
  · intro x hx z
    rw [List.dropWhile_append_of_pos hx]
    conv_lhs => rw [hsplit]
    rw [List.append_assoc, List.append_assoc, List.dropWhile_append_of_pos hu,
      dropWhile_isBlank_of_isTrimmed ht hne]

/-- Behind the bare word: the next line is taken when it is a count. -/
theorem remainder_bare (hw : ∀ c ∈ w, isBlank c = true) (hline : '\n' ∉ w)
    (hrest : ∀ l ∈ rest, '\n' ∉ l) :
    ((afterCount? ((w ++ furtherLines rest).dropWhile isBlank)).or
      (blanksToLineEnd? (w ++ furtherLines rest))).map withLineStart =
      some (remainder (if (nextLine? rest).any isCountLine then (rest.dropWhile isBlankLine).tail
        else rest)) := by
  have hbare := map_withLineStart hw hline hrest
  have hblank := blank_of_mem_lines hw rest
  have hcounted : (w ++ furtherLines rest).dropWhile isBlank =
      (furtherLines (rest.dropWhile isBlankLine)).dropWhile isBlank := by
    rw [furtherLines_split rest, ← List.append_assoc, List.dropWhile_append_of_pos hblank]
  rw [hcounted, nextLine?]
  cases hcase : rest.dropWhile isBlankLine with
  | nil => exact hbare
  | cons l r =>
    obtain ⟨hl, hr⟩ := lines_of_dropWhile hrest hcase
    obtain ⟨ht, hne, htline, w', hw', hline', hdrop⟩ :=
      exists_dropWhile_line hl (isBlankLine_of_dropWhile hcase)
    have hread := hdrop ['\n'] isBlank_lineFeed (furtherLines r)
    rw [furtherLines_cons, ← List.singleton_append, hread,
      afterCount?_append ht hne htline (head?_blanks hw' r)]
    by_cases hcount : (trimChars l).all isDecimalDigit = true
    · have hfound := map_withLineStart hw' hline' hr
      rw [blanksToLineEnd?_of_blank hw' hr] at hfound ⊢
      simpa [hcount, isCountLine, hne] using hfound
    · simpa [hcount, isCountLine] using hbare

/-- Behind the word and more on its line: the rest of the line has to be a count. -/
theorem remainder_counted (ht : '\n' ∉ t) (hblank : isBlankLine t = false)
    (hw : ∀ c ∈ w, isBlank c = true) (hline : '\n' ∉ w) (hrest : ∀ l ∈ rest, '\n' ∉ l) :
    ((afterCount? ((t ++ (w ++ furtherLines rest)).dropWhile isBlank)).or
      (blanksToLineEnd? (t ++ (w ++ furtherLines rest)))).map withLineStart =
      if (trimChars t).all isDecimalDigit then some (remainder rest) else none := by
  obtain ⟨htrimmed, hne, htline, w', hw', hline', hdrop⟩ := exists_dropWhile_line ht hblank
  have hblanks : ∀ c ∈ w' ++ w, isBlank c = true := List.forall_mem_append.mpr ⟨hw', hw⟩
  have hfound := map_withLineStart hblanks (List.not_mem_append hline' hline) hrest
  have hread := hdrop [] (by simp) (w ++ furtherLines rest)
  rw [List.nil_append] at hread
  rw [hread, blanksToLineEnd?_of_not_blank ht hblank, Option.or_none, ← List.append_assoc w',
    afterCount?_append htrimmed hne htline (head?_blanks hblanks rest), apply_ite (Option.map _),
    hfound, Option.map_none]

theorem isBareSeparator_iff (hword : ((trimChars l).map Char.toLower).take 2 = ['g', 'o']) :
    isBareSeparator l = true ↔ (trimChars l).drop 2 = [] := by
  rw [isBareSeparator, decide_eq_true_eq]
  constructor
  · intro hbare
    have hlength := congrArg List.length hbare
    rw [List.length_map] at hlength
    exact List.drop_eq_nil_of_le hlength.le
  · intro hnil
    have hlength := List.drop_eq_nil_iff.mp hnil
    rwa [List.take_of_length_le (by rwa [List.length_map])] at hword

/-- A separator is found behind blanks, with what it leaves of the lines behind it. -/
theorem afterSeparator?_line (hx : ∀ c ∈ x, isBlank c = true) (hl : '\n' ∉ l)
    (hblank : isBlankLine l = false) (hrest : ∀ l ∈ rest, '\n' ∉ l) :
    afterSeparator? (x ++ (l ++ furtherLines rest)) =
      if isSeparatorLine l then some (remainder (behind l rest)) else none := by
  obtain ⟨ht, hne, htline, w, hw, hline, hdrop⟩ := exists_dropWhile_line hl hblank
  rw [afterSeparator?_eq, hdrop x hx, dropWord?_go_append hne (head?_blanks hw rest)]
  by_cases hword : ((trimChars l).map Char.toLower).take 2 = ['g', 'o']
  · rw [if_pos hword, Option.bind_some]
    by_cases hbare : (trimChars l).drop 2 = []
    · have hisBare := (isBareSeparator_iff hword).mpr hbare
      have hseparator : isSeparatorLine l = true := by
        simp only [isSeparatorLine, hword, hbare, decide_true, Bool.true_and]
        rfl
      rw [hbare, List.nil_append, remainder_bare hw hline hrest, if_pos hseparator, behind,
        takesCount, hisBare, Bool.true_and]
    · have hnotBare : isBareSeparator l = false := by
        rw [← Bool.not_eq_true, isBareSeparator_iff hword]
        exact hbare
      have hmore : isBlankLine ((trimChars l).drop 2) = false := by
        rw [← List.take_append_drop 2 (trimChars l)] at ht
        rw [← Bool.not_eq_true, isBlankLine_iff]
        exact ht.not_all_blank hbare
      rw [remainder_counted (fun h => htline (List.mem_of_mem_drop h)) hmore hw hline hrest]
      simp only [isSeparatorLine, hword, decide_true, Bool.true_and, behind, takesCount, hnotBare,
        Bool.false_and, Bool.false_eq_true, if_false]
  · simp [hword, isSeparatorLine]

theorem afterSeparator?_of_blank (hx : ∀ c ∈ x, isBlank c = true) : afterSeparator? x = none := by
  rw [afterSeparator?_eq, List.dropWhile_eq_nil_iff.mpr hx]
  rfl

theorem afterSeparator?_of_blank_lines (h : (l :: rest).dropWhile isBlankLine = []) :
    afterSeparator? (l ++ furtherLines rest) = none := by
  obtain ⟨hl, hrest⟩ := List.forall_mem_cons.mp (List.dropWhile_eq_nil_iff.mp h)
  have hblanks := blank_of_mem_lines (isBlankLine_iff.mp hl) rest
  rw [List.takeWhile_eq_self_iff.mpr hrest] at hblanks
  exact afterSeparator?_of_blank hblanks

/-- The next separator, read from the start of a line: blank lines before it are taken with it. -/
theorem afterSeparator?_lines (hls : ∀ l' ∈ l :: rest, '\n' ∉ l')
    (h : (l :: rest).dropWhile isBlankLine = x :: after) :
    afterSeparator? (l ++ furtherLines rest) =
      if isSeparatorLine x then some (remainder (behind x after)) else none := by
  obtain ⟨hx, hafter⟩ := lines_of_dropWhile hls h
  have hfirst := isBlankLine_of_dropWhile h
  rw [List.dropWhile_cons] at h
  split_ifs at h with hblank
  · have hblanks : ∀ c ∈ l ++ furtherLines (rest.takeWhile isBlankLine) ++ ['\n'],
        isBlank c = true :=
      List.forall_mem_append.mpr
        ⟨blank_of_mem_lines (isBlankLine_iff.mp hblank) rest, isBlank_lineFeed⟩
    have hfound := afterSeparator?_line hblanks hx hfirst hafter
    rwa [List.append_assoc, List.singleton_append, ← furtherLines_cons, ← h, List.append_assoc,
      ← furtherLines_split] at hfound
  · obtain ⟨rfl, rfl⟩ := List.cons.inj h
    exact afterSeparator?_line (x := []) (by simp) hx hfirst hafter

end ColumnLint.Sql
