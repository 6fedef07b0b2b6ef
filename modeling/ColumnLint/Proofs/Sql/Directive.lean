import ColumnLint.Proofs.Pruning
import ColumnLint.Proofs.Sql.Separator
import ColumnLint.Proofs.Text.Word
import ColumnLint.Catalog
import Mathlib.Algebra.Order.BigOperators.Group.List

/-!
# Directives in comments

A directive can stand anywhere in a comment (`mem_directives`), and lists the words up to the first
character that is neither part of one nor stands between them (`mem_words`).  Of each comment at a
column only the first directive counts.  So all directives count iff no comment has a second one,
and the column opts out of the rule iff one of the first directives names the rule or no rule
(`ignored_directives`).
-/

namespace ColumnLint.Sql.Directive

open ColumnLint.Text

variable {c : Char} {cs tail d w : List Char}

/-! ### Directives in a text -/

/-- What stands behind the directives of a text, one directive after another. -/
def directives (cs : List Char) : List (List Char) :=
  cs.tails.filterMap after?

/-- Whether a text is a directive: `colcheck:`, blanks and `ignore`, without regard to case. -/
def IsDirective (d : List Char) : Prop :=
  ∃ label gap verb, SpellsWord "colcheck:" label ∧ (∀ c ∈ gap, isBlank c = true) ∧
    SpellsWord "ignore" verb ∧ d = label ++ (gap ++ verb)

/-- A text begins with a directive iff one stands before what is found behind it, with the end of
the word between them. -/
theorem after?_eq_some_iff :
    after? cs = some tail ↔
      ∃ d, IsDirective d ∧ (∀ c ∈ tail.head?, isWordChar c = false) ∧ cs = d ++ tail := by
  have hend : ∀ tail : List Char, (tail.head?.map isWordChar).getD false = true ↔
      ¬ ∀ c ∈ tail.head?, isWordChar c = false := by
    intro tail
    cases tail.head? <;> simp
  unfold after?
  simp only [Option.bind_eq_bind, Option.bind_eq_some_iff]
  constructor
  · rintro ⟨rest, hfirst, tail', hsecond, h⟩
    split_ifs at h with hword
    obtain rfl := Option.some.inj h
    obtain ⟨label, hlabel, rfl⟩ := dropWord?_eq_some_iff.mp hfirst
    obtain ⟨verb, hverb, hsplit⟩ := dropWord?_eq_some_iff.mp hsecond
    have hgap : ∀ c ∈ rest.takeWhile isBlank, isBlank c = true :=
      fun c hc => List.mem_takeWhile_imp hc
    rw [hend, not_not] at hword
    refine ⟨_, ⟨label, rest.takeWhile isBlank, verb, hlabel, hgap, hverb, rfl⟩, hword, ?_⟩
    rw [List.append_assoc, List.append_assoc, ← hsplit, List.takeWhile_append_dropWhile]
  · rintro ⟨d, ⟨label, gap, verb, hlabel, hgap, hverb, rfl⟩, hword, rfl⟩
    refine ⟨gap ++ (verb ++ tail), ?_, tail, ?_, ?_⟩
    · rw [List.append_assoc, List.append_assoc]
      exact dropWord?_append hlabel _
    · have hrun := hverb.isRun (by decide) (by decide +kernel)
      rw [(cut_gap_iff.mpr ⟨hgap, hrun.resumes tail, rfl⟩).2]
      exact dropWord?_append hverb _
    · rw [if_neg]
      rw [hend, not_not]
      exact hword

theorem mem_directives :
    tail ∈ directives cs ↔
      ∃ before d, IsDirective d ∧ (∀ c ∈ tail.head?, isWordChar c = false) ∧
        cs = before ++ (d ++ tail) := by
  unfold directives
  rw [List.mem_filterMap]
  constructor
  · rintro ⟨cs', hcs', h⟩
    obtain ⟨d, hd, hend, rfl⟩ := after?_eq_some_iff.mp h
    obtain ⟨before, hbefore⟩ := (List.mem_tails _ _).mp hcs'
    exact ⟨before, d, hd, hend, hbefore.symm⟩
  · rintro ⟨before, d, hd, hend, rfl⟩
    refine ⟨d ++ tail, (List.mem_tails _ _).mpr ⟨before, rfl⟩, ?_⟩
    exact after?_eq_some_iff.mpr ⟨d, hd, hend, rfl⟩

/-- Of the directives of a text the first one is found. -/
theorem firstAfter?_eq (cs : List Char) : firstAfter? cs = (directives cs).head? := by
  unfold directives
  induction cs with
  | nil => rfl
  | cons c cs ih =>
    rw [firstAfter?, List.tails_cons, List.filterMap_cons]
    cases h : after? (c :: cs) with
    | none => exact ih
    | some tail => rfl

/-! ### Listed words -/

/-- The words that a directive lists. -/
def words (tail : List Char) : List (List Char) :=
  fieldsOf isSeparator (tail.takeWhile fun c => isWordChar c || isSeparator c)

theorem listed_eq (tail : List Char) :
    listed tail =
      if words tail = [] then ["*"] else (words tail).map fun w => upper (String.ofList w) := by
  unfold listed words
  simp only [List.isEmpty_iff, List.map_eq_nil_iff]

/-- A separator is no word character. -/
theorem isWordChar_of_isSeparator (h : isSeparator c = true) : isWordChar c = false := by
  unfold isSeparator at h
  rw [Bool.or_eq_true, decide_eq_true_eq] at h
  rcases h with h | rfl
  · have htable : ∀ n ∈ blankCodes, isWordChar (Char.ofNat n) = false := by decide +kernel
    have hc := htable c.toNat (mem_blankCodes h)
    rwa [Char.ofNat_toNat] at hc
  · decide +kernel

/-- Whether a character can stand in the list of a directive. -/
def isListed (c : Char) : Bool := isWordChar c || isSeparator c

theorem isListed_iff : isListed c = true ↔ isWordChar c = true ∨ isSeparator c = true := by
  rw [isListed, Bool.or_eq_true]

/-- The words are the runs of word characters up to the first character that can not stand in the
list. -/
theorem mem_words :
    w ∈ words tail ↔ w ≠ [] ∧ (∀ c ∈ w, isWordChar c = true) ∧
      ∃ before after, (∀ c ∈ before, isListed c = true) ∧
        (∀ c ∈ before.getLast?, isWordChar c = false) ∧
        (∀ c ∈ after.head?, isWordChar c = false) ∧ tail = before ++ (w ++ after) := by
  unfold words
  rw [mem_fieldsOf]
  constructor
  · rintro ⟨before, hne, hw, hlast, after, hafter, hsplit⟩
    have hlisted : ∀ c ∈ before ++ (w ++ after), isListed c = true := fun c hc =>
      List.mem_takeWhile_imp (hsplit ▸ hc)
    obtain ⟨hbefore, hrest⟩ := List.forall_mem_append.mp hlisted
    obtain ⟨hword, -⟩ := List.forall_mem_append.mp hrest
    refine ⟨hne, fun c hc => ?_, before, after ++ tail.dropWhile isListed, hbefore,
      fun c hc => isWordChar_of_isSeparator (hlast c hc), ?_, ?_⟩
    · exact (isListed_iff.mp (hword c hc)).resolve_right (by rw [hw c hc]; exact Bool.false_ne_true)
    · cases after with
      | cons a after => exact fun c hc => isWordChar_of_isSeparator (hafter c hc)
      | nil =>
        intro c hc
        have hstop := List.head?_dropWhile_not isListed tail
        rw [List.nil_append] at hc
        rw [hc] at hstop
        exact (Bool.or_eq_false_iff.mp hstop).1
    · rw [← List.append_assoc w, ← List.append_assoc before, ← hsplit]
      exact List.takeWhile_append_dropWhile.symm
  · rintro ⟨hne, hw, before, after, hbefore, hlast, hafter, rfl⟩
    have hseparator : ∀ {c}, isListed c = true → isWordChar c = false → isSeparator c = true := by
      intro c hc hnot
      exact (isListed_iff.mp hc).resolve_left (by rw [hnot]; exact Bool.false_ne_true)
    have hword : ∀ c ∈ w, isListed c = true := fun c hc => isListed_iff.mpr (.inl (hw c hc))
    refine ⟨before, hne, fun c hc => ?_, fun c hc => ?_, after.takeWhile isListed,
      fun c hc => ?_, ?_⟩
    · by_contra hsep
      rw [Bool.not_eq_false] at hsep
      exact absurd (hw c hc) (by rw [isWordChar_of_isSeparator hsep]; exact Bool.false_ne_true)
    · exact hseparator (hbefore c (List.mem_of_getLast? hc)) (hlast c hc)
    · have hlist : isListed c = true := List.mem_takeWhile_imp (List.mem_of_head? hc)
      refine hseparator hlist (hafter c ?_)
      cases after with
      | nil => exact nomatch hc
      | cons a after =>
        rw [List.takeWhile_cons] at hc
        split_ifs at hc
        · exact hc
        · exact nomatch hc
    · rw [← List.append_assoc before, ← List.append_assoc before]
      exact List.takeWhile_append_of_pos (List.forall_mem_append.mpr ⟨hbefore, hword⟩)

/-! ### Suppressed rules -/

theorem listed_ne_nil (tail : List Char) : listed tail ≠ [] := by
  rw [listed_eq]
  split_ifs with h
  · exact List.cons_ne_nil _ _
  · rwa [Ne, List.map_eq_nil_iff]

theorem rules_eq (comment : String) :
    rules comment = ((directives comment.toList).take 1).flatMap listed := by
  unfold rules
  rw [firstAfter?_eq]
  cases directives comment.toList with
  | nil => rfl
  | cons tail rest => simp

/-- Whether a directive names the rule without regard to case, or no rule at all. -/
def Names (rule : String) (tail : List Char) : Prop :=
  words tail = [] ∨ ∃ w ∈ words tail, upper (String.ofList w) = upper rule

/-- No word is the one for all rules. -/
theorem upper_ne_star (hw : w ∈ words tail) : upper (String.ofList w) ≠ "*" := by
  rw [Ne, upper_eq_star_iff]
  intro hstar
  have hchars : w = ['*'] := by simpa using congrArg String.toList hstar
  have hword := (mem_words.mp hw).2.1 '*' (by rw [hchars]; exact List.mem_singleton_self _)
  exact absurd hword (by decide +kernel)

/-- A column opts out iff one of the directives that count for it names the rule. -/
theorem optsOut_iff {col : Column} {tails : List (List Char)}
    (h : col.ignored = tails.flatMap listed) :
    col.OptsOut ↔ ∃ tail ∈ tails, Names mismatchedColumnsRule tail := by
  have hrule : upper mismatchedColumnsRule = "SRD0047" := by decide +kernel
  have hlists : ∀ tail, Names mismatchedColumnsRule tail ↔
      "*" ∈ listed tail ∨ ∃ r ∈ listed tail, upper r = "SRD0047" := by
    intro tail
    have hstar : upper "*" ≠ "SRD0047" := by decide +kernel
    unfold Names
    rw [listed_eq, hrule]
    split_ifs with hnil
    · simp [hnil]
    · have hnone : "*" ∉ (words tail).map fun w => upper (String.ofList w) := by
        rw [List.mem_map]
        rintro ⟨w, hw, hw'⟩
        exact upper_ne_star hw hw'
      simp [hnil, hnone, upper_upper]
  unfold Column.OptsOut
  rw [h]
  simp only [hlists, List.mem_flatMap]
  constructor
  · rintro (⟨tail, htail, hmem⟩ | ⟨r, ⟨tail, htail, hmem⟩, hr⟩)
    · exact ⟨tail, htail, .inl hmem⟩
    · exact ⟨tail, htail, .inr ⟨r, hmem, hr⟩⟩
  · rintro ⟨tail, htail, hmem | ⟨r, hmem, hr⟩⟩
    · exact .inl ⟨tail, htail, hmem⟩
    · exact .inr ⟨r, ⟨tail, htail, hmem⟩, hr⟩

/-- The directives of comments that count: the first one of each. -/
def counting (comments : List String) : List (List Char) :=
  comments.flatMap fun s => (directives s.toList).take 1

theorem ignored_annotated (c : ColumnDefinition) (comments : List String) :
    (Parser.annotated c comments).ignored = (counting comments).flatMap listed := by
  show comments.flatMap rules = _
  rw [counting, List.flatMap_assoc]
  exact List.flatMap_congr fun s _ => rules_eq s

/-- A directive behind the first one lists something more. -/
theorem length_listed (tails : List (List Char)) :
    ((tails.take 1).flatMap listed).length ≤ (tails.flatMap listed).length ∧
      (1 < tails.length →
        ((tails.take 1).flatMap listed).length < (tails.flatMap listed).length) := by
  match tails with
  | [] => exact ⟨le_rfl, fun h => absurd h (by simp)⟩
  | [tail] => exact ⟨le_rfl, fun h => absurd h (by simp)⟩
  | tail :: tail' :: tails =>
    have hmore := List.length_pos_of_ne_nil (listed_ne_nil tail')
    simp only [List.take_succ_cons, List.take_zero, List.flatMap_cons, List.flatMap_nil,
      List.length_append, List.append_nil]
    omega

/-- What all directives of comments list is what the counting ones do iff no comment has a second
one. -/
theorem listed_counting_iff (comments : List String) :
    (counting comments).flatMap listed =
        (comments.flatMap fun s => directives s.toList).flatMap listed ↔
      ∀ s ∈ comments, (directives s.toList).length ≤ 1 := by
  unfold counting
  constructor
  · intro h s hs
    by_contra hsecond
    have hlength := congrArg List.length h
    rw [List.flatMap_assoc, List.flatMap_assoc, List.length_flatMap, List.length_flatMap] at hlength
    refine absurd hlength (ne_of_lt (List.sum_lt_sum _ _ (fun s _ => (length_listed _).1) ?_))
    exact ⟨s, hs, (length_listed _).2 (not_le.mp hsecond)⟩
  · intro h
    congr 1
    exact List.flatMap_congr fun s hs => List.take_of_length_le (h s hs)

/-- What the comments at a definition suppress is what the first directive of each of them lists,
with `*` for one that lists nothing.  All directives count iff no comment has a second one; they
stand wherever a comment spells one and the word ends there.  A column that ignores these rules opts
out iff one of the first directives names the rule or no rule, and then nothing that the rule looks
at comes from it. -/
theorem ignored_directives (c : ColumnDefinition) (comments : List String) :
    let ignored := (Parser.annotated c comments).ignored
    ignored = (counting comments).flatMap listed ∧
    (ignored = (comments.flatMap fun s => directives s.toList).flatMap listed ↔
      ∀ s ∈ comments, (directives s.toList).length ≤ 1) ∧
    (∀ s ∈ comments, ∀ tail, tail ∈ directives s.toList ↔
      ∃ before d, IsDirective d ∧ (∀ c ∈ tail.head?, isWordChar c = false) ∧
        s.toList = before ++ (d ++ tail)) ∧
    ∀ col : Column, col.ignored = ignored →
      (col.OptsOut ↔ ∃ tail ∈ counting comments, Names mismatchedColumnsRule tail) ∧
      ∀ tail ∈ counting comments, Names mismatchedColumnsRule tail →
        ∀ (s : Settings) (tables : List Table), ∀ o ∈ s.occurrences tables, ∀ t,
          o.origin ≠ .declared t col := by
  rw [ignored_annotated]
  refine ⟨rfl, listed_counting_iff comments, fun s _ tail => mem_directives,
    fun col hcol => ⟨optsOut_iff hcol, ?_⟩⟩
  intro tail htail hnames s tables o ho t
  exact s.origin_ne_of_optsOut ((optsOut_iff hcol).mpr ⟨tail, htail, hnames⟩) ho t

/-- A column of which one comment names two rules and says why, and another names none. -/
def legacyDefinition : ColumnDefinition :=
  Parser.annotated ⟨"code", ⟨some "INT", []⟩, true, []⟩
    ["old; colcheck: ignore SRD0001, srd0047 (as agreed)", "COLCHECK:  Ignore."]

/-- The column in a table of its own. -/
def legacyTable : Table :=
  ⟨none, commonSchema, "T", [legacyDefinition.toColumn none commonSchema "T" 1]⟩

/-- All of it counts, so nothing that the rule looks at comes from the column. -/
theorem ignored_directives_legacyTable :
    legacyDefinition.ignored = ["SRD0001", "SRD0047", "*"] ∧
      ∀ o ∈ Settings.standard.occurrences [legacyTable],
        o.origin ≠ .declared legacyTable (legacyDefinition.toColumn none commonSchema "T" 1) := by
  obtain ⟨hignored, -, -, hcolumn⟩ := ignored_directives ⟨"code", ⟨some "INT", []⟩, true, []⟩
    ["old; colcheck: ignore SRD0001, srd0047 (as agreed)", "COLCHECK:  Ignore."]
  obtain ⟨-, hnone⟩ := hcolumn (legacyDefinition.toColumn none commonSchema "T" 1) rfl
  refine ⟨hignored.trans (by decide +kernel), fun o ho => ?_⟩
  exact hnone ['.'] (by decide +kernel) (.inl (by decide +kernel)) .standard [legacyTable] o ho _

/-- A script with two directives in the comment at a column. -/
def suppressingScript : String :=
  "CREATE TABLE t (a INT /* colcheck: ignore SRD0001; colcheck: ignore SRD0047 */, b INT)"

/-- The second directive of a comment is lost. -/
theorem second_directive_lost :
    (directives " colcheck: ignore SRD0001; colcheck: ignore SRD0047 ".toList).map listed =
        [["SRD0001"], ["SRD0047"]] ∧
      (Catalog.empty.applyScript standardPreparations "tsql" suppressingScript).1.tables.map
          (fun t => t.columns.map fun c => (c.name, c.ignored)) =
        [[("A", ["SRD0001"]), ("B", [])]] := by
  decide +kernel

end ColumnLint.Sql.Directive
